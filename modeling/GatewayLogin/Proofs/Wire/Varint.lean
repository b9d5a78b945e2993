/-
Which byte strings are forms of a word.

A form spells a number in groups of seven bits, lowest first, all but the last marked as continued.
It need not be the shortest.  The reader takes exactly the forms of at most ten bytes whose number
fits into 64 bits (`Varint.read_reads`).  The writer, which works on the bits of a word, gives the
groups of its number (`Varint.encode_eq_groups`), and that is one of the forms
(`Varint.encode_form`).
-/
import Mathlib.Algebra.Group.Nat.Defs
import Mathlib.Tactic.SplitIfs
import GatewayLogin.Proofs.Wire.Reader
import GatewayLogin.Wire.Varint

namespace GatewayLogin.Varint

/-- The bytes spell the number, seven bits each, lowest first. -/
inductive Spells : Bytes → Nat → Prop where
  | last {b : UInt8} (h : b < 128) : Spells [b] b.toNat
  | more {b : UInt8} {rest : Bytes} {n : Nat} (h : 128 ≤ b) (hrest : Spells rest n) :
      Spells (b :: rest) (b.toNat - 128 + 128 * n)

/-- The bytes are an admitted form of the word. -/
structure Form (form : Bytes) (word : UInt64) : Prop where
  spells : Spells form word.toNat
  length_le : form.length ≤ maxLength

theorem Spells.ne_nil {form : Bytes} {n : Nat} (h : Spells form n) : form ≠ [] := by
  cases h <;> simp

/-- The seven-bit groups of a number, lowest first, all but the last marked as continued. -/
def groups (n : Nat) : Bytes :=
  if n < 128 then [n.toUInt8]
  else (n % 128 + 128).toUInt8 :: groups (n / 128)
termination_by n
decreasing_by omega

/-- The low seven bits of a word behind a mark are its lowest digit with the mark added. -/
theorem toNat_marked (word : UInt64) :
    (word.toUInt8 &&& 0x7F ||| 0x80).toNat = word.toNat % 128 + 128 := by
  have hlow : (word.toUInt8 &&& 0x7F).toNat = word.toNat % 128 := by
    calc (word.toUInt8 &&& 0x7F).toNat
        = word.toUInt8.toNat &&& 127 := UInt8.toNat_and ..
      _ = word.toUInt8.toNat % 128 := Nat.and_two_pow_sub_one_eq_mod _ 7
      _ = word.toNat % 128 := by
        rw [UInt64.toNat_toUInt8]
        omega
  have hdigit : word.toNat % 128 < 2 ^ 7 := Nat.mod_lt _ (by decide)
  calc (word.toUInt8 &&& 0x7F ||| 0x80).toNat
      = (word.toUInt8 &&& 0x7F).toNat ||| 128 := UInt8.toNat_or ..
    _ = 128 ||| word.toNat % 128 := by rw [hlow, Nat.or_comm]
    _ = 128 + word.toNat % 128 := (Nat.two_pow_add_eq_or_of_lt hdigit 1).symm
    _ = word.toNat % 128 + 128 := Nat.add_comm ..

/-- What shifts and masks take out of a word is the digits of its number. -/
theorem encode_eq_groups (word : UInt64) : encode word = groups word.toNat := by
  fun_induction encode word with
  | case1 word hlast =>
      have hsmall : word.toNat < 128 := hlast
      rw [groups, if_pos hsmall]
      rfl
  | case2 word hmore ih =>
      have hlarge : ¬ word.toNat < 128 := hmore
      have hbyte : word.toUInt8 &&& 0x7F ||| 0x80 = (word.toNat % 128 + 128).toUInt8 := by
        rw [← UInt8.toNat_inj, toNat_marked]
        simp only [Nat.toUInt8, UInt8.toNat_ofNat']
        omega
      rw [groups, if_neg hlarge, ih, toNat_shiftRight_seven, hbyte]

theorem groups_spells (n : Nat) : Spells (groups n) n := by
  fun_induction groups n with
  | case1 n hlast =>
      have hbyte : n.toUInt8.toNat = n := by
        simp only [Nat.toUInt8, UInt8.toNat_ofNat']
        omega
      have hspells : Spells [n.toUInt8] n.toUInt8.toNat :=
        .last (by rwa [UInt8.lt_iff_toNat_lt, hbyte])
      rwa [hbyte] at hspells
  | case2 n hmore ih =>
      have hbyte : (n % 128 + 128).toUInt8.toNat = n % 128 + 128 := by
        simp only [Nat.toUInt8, UInt8.toNat_ofNat']
        omega
      have hmarked : 128 ≤ (n % 128 + 128).toUInt8 := by
        rw [UInt8.le_iff_toNat_le, hbyte]
        exact Nat.le_add_left ..
      have hspells := Spells.more hmarked ih
      have hsum : n % 128 + 128 - 128 + 128 * (n / 128) = n := by omega
      rwa [hbyte, hsum] at hspells

theorem groups_length_le {room n : Nat} (h : n < 2 * 128 ^ room) :
    (groups n).length ≤ room + 1 := by
  induction room generalizing n with
  | zero =>
      rw [groups, if_pos (by omega)]
      simp
  | succ room ih =>
      rw [groups]
      split
      · simp
      · rw [Nat.pow_succ] at h
        have hlater := ih (n := n / 128) (by omega)
        simpa using hlater

/-- The form that the writer gives is an admitted one. -/
theorem encode_form (word : UInt64) : Form (encode word) word := by
  rw [encode_eq_groups]
  exact ⟨groups_spells _, groups_length_le word.toNat_lt⟩

theorem scan_sound {room n : Nat} {bytes rest : Bytes}
    (h : scan (room + 1) bytes = some (n, rest)) :
    ∃ form, bytes = form ++ rest ∧ Spells form n ∧ form.length ≤ room + 1 ∧
      n < 2 * 128 ^ room := by
  induction room generalizing bytes n with
  | zero =>
      cases bytes with
      | nil => simp [scan] at h
      | cons b tail =>
          simp only [scan, true_and] at h
          split at h
          · cases h
          · rename_i hsmall
            have hlt : b < 128 := by grind
            rw [if_pos hlt] at h
            cases h
            have : b.toNat ≤ 1 := by simpa [UInt8.lt_iff_toNat_lt] using hsmall
            exact ⟨[b], rfl, .last hlt, by simp, by omega⟩
  | succ room ih =>
      cases bytes with
      | nil => simp [scan] at h
      | cons b tail =>
          rw [scan, if_neg (by omega)] at h
          have hpow : 0 < 128 ^ room := Nat.pow_pos (by decide)
          have hb := b.toNat_lt
          by_cases hlt : b < 128
          · rw [if_pos hlt] at h
            cases h
            have : b.toNat < 128 := by simpa [UInt8.lt_iff_toNat_lt] using hlt
            exact ⟨[b], rfl, .last hlt, by simp, by rw [Nat.pow_succ]; omega⟩
          · rw [if_neg hlt] at h
            split at h
            · rename_i m left hm
              cases h
              obtain ⟨form, rfl, hspells, hlength, hbound⟩ := ih hm
              refine ⟨b :: form, rfl, .more (by grind) hspells, by simpa using hlength, ?_⟩
              rw [Nat.pow_succ]
              omega
            · cases h

theorem scan_complete {form rest : Bytes} {n room : Nat} (h : Spells form n)
    (hlength : form.length ≤ room + 1) (hbound : n < 2 * 128 ^ room) :
    scan (room + 1) (form ++ rest) = some (n, rest) := by
  induction h generalizing room with
  | @last b hlt =>
      have hfits : ¬ (room = 0 ∧ 1 < b) := by
        rintro ⟨rfl, hbig⟩
        have : 1 < b.toNat := by simpa [UInt8.lt_iff_toNat_lt] using hbig
        omega
      simp [scan, hfits, hlt]
  | @more b tail n hge hrest ih =>
      cases room with
      | zero => cases hrest <;> simp at hlength
      | succ room =>
          have hlater : n < 2 * 128 ^ room := by
            rw [Nat.pow_succ] at hbound
            omega
          have hnot : ¬ b < 128 := by grind
          rw [List.cons_append, scan, if_neg (by omega), if_neg hnot,
            ih (by simpa using hlength) hlater]

/-- The reader takes the admitted forms and nothing else. -/
theorem read_reads : read.Reads fun word form => Form form word := by
  intro bytes word rest
  constructor
  · intro h
    simp only [read, maxLength] at h
    split at h
    · rename_i n left hscan
      cases h
      obtain ⟨form, rfl, hspells, hlength, hbound⟩ := scan_sound hscan
      have hword : n.toUInt64.toNat = n := by
        simp only [Nat.toUInt64, UInt64.toNat_ofNat']
        omega
      exact ⟨form, rfl, by rwa [hword], hlength⟩
    · cases h
  · rintro ⟨form, rfl, hform⟩
    have hscan : scan maxLength (form ++ rest) = some (word.toNat, rest) :=
      scan_complete hform.spells hform.length_le word.toNat_lt
    simp [read, hscan]

/-- Where there is room for no more, further bytes do not help. -/
theorem scan_none_append {room : Nat} {bytes : Bytes} (h : scan room bytes = none)
    (hroom : room ≤ bytes.length) (more : Bytes) : scan room (bytes ++ more) = none := by
  induction room generalizing bytes with
  | zero => rfl
  | succ room ih =>
      cases bytes with
      | nil => simp at hroom
      | cons b tail =>
          simp only [scan] at h
          simp only [List.cons_append, scan]
          split_ifs at h ⊢
          · rfl
          · cases htail : scan room tail with
            | none => rw [ih htail (by simpa using hroom)]
            | some found => simp [htail] at h

theorem read_fault_append {bytes : Bytes} {fault : Fault} (h : read bytes = .error fault)
    (hlength : maxLength ≤ bytes.length) (more : Bytes) : read (bytes ++ more) = .error fault := by
  simp only [read] at h ⊢
  split at h
  · cases h
  · rename_i hscan
    rw [scan_none_append hscan hlength]
    exact h

/-- Bytes that do not end where there is room for more need only one more. -/
theorem scan_none_spells {room : Nat} {bytes : Bytes} (h : scan room bytes = none)
    (hroom : bytes.length < room) : ∃ n, Spells (bytes ++ [0]) n ∧ n < 128 ^ bytes.length := by
  induction bytes generalizing room with
  | nil => exact ⟨0, .last (by decide), by simp⟩
  | cons b tail ih =>
      obtain ⟨room, rfl⟩ := Nat.exists_eq_add_one_of_ne_zero (Nat.ne_zero_of_lt hroom)
      rw [List.length_cons] at hroom
      rw [scan, if_neg (by omega)] at h
      split_ifs at h with hlast
      cases htail : scan room tail with
      | some found => simp [htail] at h
      | none =>
          obtain ⟨n, hspells, hn⟩ := ih htail (by omega)
          have hb := b.toNat_lt
          refine ⟨_, .more (UInt8.not_lt.mp hlast) hspells, ?_⟩
          rw [List.length_cons, Nat.pow_succ]
          omega

/-- Too few bytes to be at fault begin an admitted form. -/
theorem form_of_fault {bytes : Bytes} {fault : Fault} (h : read bytes = .error fault)
    (hlength : bytes.length < maxLength) : ∃ word, Form (bytes ++ [0]) word := by
  simp only [read] at h
  split at h
  · cases h
  · rename_i hscan
    obtain ⟨n, hspells, hn⟩ := scan_none_spells hscan hlength
    have hshort : bytes.length ≤ 9 := Nat.le_of_lt_succ hlength
    have hbound : 128 ^ bytes.length ≤ 128 ^ 9 := Nat.pow_le_pow_right (by decide) hshort
    have hword : n.toUInt64.toNat = n := by
      simp only [Nat.toUInt64, UInt64.toNat_ofNat']
      omega
    refine ⟨n.toUInt64, by rwa [hword], ?_⟩
    rw [List.length_append]
    exact hlength

theorem read_fault {bytes : Bytes} {fault : Fault} (h : read bytes = .error fault) :
    fault = .malformedVarint := by
  simp only [read] at h
  split at h
  · cases h
  · cases h
    rfl

theorem read_isCodec : read.IsCodec := by
  intro bytes fault h
  rw [read_fault h]
  rfl

end GatewayLogin.Varint
