/-
The digits of a word, and how many bytes they take.

A form of a word spells it to base 128: each byte holds one digit, the lowest first, and a mark on
every byte but the last tells that more follow.  `Varint.Digits` says this byte by byte
(`Varint.digits_iff_form`).  A word has many forms, for zeros may stand behind its highest digit;
the writer leaves them out, so that its form is the only one of its length and no form is shorter
(`Varint.shortest_of_spells`).  Main statement: `Varint.digits_read_and_shortest_written`.
-/
import Mathlib.Algebra.BigOperators.Fin
import GatewayLogin.Proofs.Wire.Varint

namespace GatewayLogin.Varint

open Finset

/-- The number to base 128 whose digits are the low seven bits of some bytes, lowest first. -/
def digitSum (form : Bytes) : Nat :=
  ∑ i : Fin form.length, form[i].toNat % 128 * 128 ^ i.val

/-- One to ten bytes, all but the last of them marked as continued, whose digits spell the word. -/
structure Digits (form : Bytes) (word : UInt64) : Prop where
  length_pos : 1 ≤ form.length
  length_le : form.length ≤ 10
  continued : ∀ b ∈ form.dropLast, 128 ≤ b
  ended : ∀ b ∈ form.getLast?, b < 128
  sum : digitSum form = word.toNat

@[simp] theorem digitSum_nil : digitSum [] = 0 := rfl

theorem digitSum_cons (b : UInt8) (rest : Bytes) :
    digitSum (b :: rest) = b.toNat % 128 + 128 * digitSum rest := by
  have hlater (i : Fin rest.length) :
      rest[i].toNat % 128 * 128 ^ (i.val + 1) = 128 * (rest[i].toNat % 128 * 128 ^ i.val) := by
    rw [pow_succ', mul_left_comm]
  calc digitSum (b :: rest)
      = b.toNat % 128 * 128 ^ 0
          + ∑ i : Fin rest.length, rest[i].toNat % 128 * 128 ^ (i.val + 1) := Fin.sum_univ_succ _
    _ = b.toNat % 128 + 128 * digitSum rest := by
      simp only [hlater, ← mul_sum, pow_zero, mul_one, digitSum]

theorem toNat_mod_of_marked {b : UInt8} (h : 128 ≤ b) : b.toNat % 128 = b.toNat - 128 := by
  have hlow : 128 ≤ b.toNat := UInt8.le_iff_toNat_le.mp h
  have hhigh := b.toNat_lt
  omega

/-- Bytes spell a number exactly if the marks are where they should be and the digits add up to
it. -/
theorem spells_iff {form : Bytes} {n : Nat} :
    Spells form n ↔ form ≠ [] ∧ (∀ b ∈ form.dropLast, 128 ≤ b) ∧ (∀ b ∈ form.getLast?, b < 128) ∧
      digitSum form = n := by
  constructor
  · intro h
    induction h with
    | @last b hlast =>
        have hbyte : b.toNat < 128 := UInt8.lt_iff_toNat_lt.mp hlast
        refine ⟨by simp, by simp, by simpa using hlast, ?_⟩
        rw [digitSum_cons, digitSum_nil]
        omega
    | @more b rest n hmarked hrest ih =>
        obtain ⟨hne, hcontinued, hended, hsum⟩ := ih
        refine ⟨by simp, ?_, ?_, ?_⟩
        · rw [List.dropLast_cons_of_ne_nil hne, List.forall_mem_cons]
          exact ⟨hmarked, hcontinued⟩
        · obtain ⟨c, tail, rfl⟩ := List.exists_cons_of_ne_nil hne
          rwa [List.getLast?_cons_cons]
        · rw [digitSum_cons, hsum, toNat_mod_of_marked hmarked]
  · rintro ⟨hne, hcontinued, hended, rfl⟩
    induction form with
    | nil => exact absurd rfl hne
    | cons b rest ih =>
        rw [digitSum_cons]
        cases rest with
        | nil =>
            have hlast : b < 128 := hended b rfl
            have hbyte : b.toNat < 128 := UInt8.lt_iff_toNat_lt.mp hlast
            rw [digitSum_nil, Nat.mul_zero, Nat.add_zero, Nat.mod_eq_of_lt hbyte]
            exact .last hlast
        | cons c tail =>
            rw [List.dropLast_cons_of_ne_nil (by simp), List.forall_mem_cons] at hcontinued
            rw [List.getLast?_cons_cons] at hended
            rw [toNat_mod_of_marked hcontinued.1]
            exact .more hcontinued.1 (ih (by simp) hcontinued.2 hended)

theorem digits_iff_form {form : Bytes} {word : UInt64} : Digits form word ↔ Form form word := by
  constructor
  · intro h
    have hne : form ≠ [] := List.ne_nil_of_length_pos h.length_pos
    exact ⟨spells_iff.mpr ⟨hne, h.continued, h.ended, h.sum⟩, h.length_le⟩
  · intro h
    obtain ⟨hne, hcontinued, hended, hsum⟩ := spells_iff.mp h.spells
    exact ⟨List.length_pos_of_ne_nil hne, h.length_le, hcontinued, hended, hsum⟩

/-- The bytes of the shortest form are counted by the bits of the number. -/
theorem length_groups (n : Nat) : (groups n).length = (n.log2 + 7) / 7 := by
  fun_induction groups n with
  | case1 n hlast =>
      have hbits : n.log2 < 7 := by
        by_cases hzero : n = 0
        · rw [hzero]
          decide
        · exact (Nat.log2_lt hzero).mpr hlast
      rw [List.length_singleton]
      omega
  | case2 n hmore ih =>
      have hbits : n.log2 = (n / 128).log2 + 7 := by
        have hhigh : n / 128 ≠ 0 := by omega
        obtain ⟨hle, hlt⟩ := (Nat.log2_eq_iff hhigh).mp rfl
        have hpow : 2 ^ ((n / 128).log2 + 7) = 2 ^ (n / 128).log2 * 128 := pow_add 2 _ 7
        apply (Nat.log2_eq_iff (by omega)).mpr
        rw [pow_succ 2 ((n / 128).log2 + 7), hpow]
        rw [pow_succ] at hlt
        omega
      rw [List.length_cons, ih, hbits]
      omega

/-- Setting the lowest bit does not change which bit is the highest, except that zero has none. -/
theorem log2_or_one (n : Nat) : (n ||| 1).log2 = n.log2 := by
  by_cases hzero : n = 0
  · rw [hzero]
    decide
  · obtain ⟨hle, hlt⟩ := (Nat.log2_eq_iff hzero).mp rfl
    have hset : n ≤ n ||| 1 := Nat.left_le_or
    apply (Nat.log2_eq_iff (by omega)).mpr
    refine ⟨by omega, Nat.or_lt_two_pow hlt ?_⟩
    exact Nat.one_lt_two_pow (by omega)

theorem length_encode (word : UInt64) : (encode word).length = size word := by
  have hone : (word ||| 1).toNat = word.toNat ||| 1 := rfl
  rw [encode_eq_groups, length_groups, size, bitLength, hone, log2_or_one]

/-- A number that is not below 128 has further digits, and they are spelled behind its first. -/
theorem groups_of_spells_more {b : UInt8} {n : Nat} (hmarked : 128 ≤ b) (hmore : n ≠ 0) :
    groups (b.toNat - 128 + 128 * n) = b :: groups n := by
  have hlow : 128 ≤ b.toNat := UInt8.le_iff_toNat_le.mp hmarked
  have hhigh := b.toNat_lt
  have hdigit : (b.toNat - 128 + 128 * n) % 128 + 128 = b.toNat := by omega
  have hrest : (b.toNat - 128 + 128 * n) / 128 = n := by omega
  rw [groups, if_neg (by omega), hdigit, hrest]
  simp [Nat.toUInt8]

/-- No form of a number is shorter than the one that the writer gives, and no other is as short. -/
theorem shortest_of_spells {form : Bytes} {n : Nat} (h : Spells form n) :
    (groups n).length ≤ form.length ∧ (form.length = (groups n).length → form = groups n) := by
  induction h with
  | @last b hlast =>
      have hbyte : b.toNat < 128 := UInt8.lt_iff_toNat_lt.mp hlast
      rw [groups, if_pos hbyte]
      simp [Nat.toUInt8]
  | @more b rest n hmarked hrest ih =>
      obtain ⟨hshort, hsame⟩ := ih
      have hlength : 0 < rest.length := List.length_pos_of_ne_nil hrest.ne_nil
      by_cases hzero : n = 0
      · -- A zero behind the last digit makes the form longer.
        have hbyte := b.toNat_lt
        rw [hzero, groups, if_pos (by omega)]
        refine ⟨by simp, fun hequal => ?_⟩
        rw [List.length_cons, List.length_singleton] at hequal
        omega
      · rw [groups_of_spells_more hmarked hzero, List.length_cons, List.length_cons]
        refine ⟨by omega, fun hequal => ?_⟩
        rw [hsame (by omega)]

/-- Reading inside a buffer takes the digits that stand at the offset. -/
theorem readAt_eq_ok_iff {buffer : Bytes} {offset next : Nat} {word : UInt64} :
    Reader.readAt read buffer offset = .ok (word, next) ↔
      ∃ form, form <+: buffer.drop offset ∧ next = offset + form.length ∧ Digits form word := by
  have hforms (value : UInt64) (form : Bytes) (hform : Form form value) : form ≠ [] :=
    hform.spells.ne_nil
  simp only [read_reads.readAt_eq_ok_iff hforms, digits_iff_form]

theorem readAt_eq_error_iff {buffer : Bytes} {offset : Nat} :
    Reader.readAt read buffer offset = .error .malformedVarint ↔
      ¬ ∃ form word, form <+: buffer.drop offset ∧ Digits form word := by
  constructor
  · rintro hfault ⟨form, word, hfront, hdigits⟩
    have hread := readAt_eq_ok_iff.mpr ⟨form, hfront, rfl, hdigits⟩
    rw [hfault] at hread
    cases hread
  · intro hnone
    cases hread : Reader.readAt read buffer offset with
    | ok result =>
        obtain ⟨form, hfront, -, hdigits⟩ := readAt_eq_ok_iff.mp hread
        exact absurd ⟨form, _, hfront, hdigits⟩ hnone
    | error fault => rw [read_fault (Reader.readAt_eq_error_iff.mp hread)]

/-- What is read from the front of some bytes takes no fewer of them than the writer gives. -/
theorem shortest_of_readAt {bytes : Bytes} {word : UInt64} {next : Nat}
    (h : Reader.readAt read bytes 0 = .ok (word, next)) :
    size word ≤ bytes.length ∧ (bytes.length = size word → bytes = encode word) := by
  obtain ⟨form, hfront, -, hdigits⟩ := readAt_eq_ok_iff.mp h
  obtain ⟨hshort, hsame⟩ := shortest_of_spells (digits_iff_form.mp hdigits).spells
  have hle : form.length ≤ bytes.length := hfront.length_le
  rw [← length_encode, encode_eq_groups]
  refine ⟨Nat.le_trans hshort hle, fun hequal => ?_⟩
  have hall : form.length = bytes.length := Nat.le_antisymm hle (hequal ▸ hshort)
  obtain rfl : form = bytes := hfront.eq_of_length hall
  exact hsame hequal

/-- A word is read at an offset exactly if its digits stand there, and otherwise the bytes are
malformed.  The writer gives as many bytes as it says, they are read as the word, and nothing else
that is read as the word is as short. -/
theorem digits_read_and_shortest_written :
    (∀ buffer offset word next, Reader.readAt read buffer offset = .ok (word, next) ↔
      ∃ form, form <+: buffer.drop offset ∧ next = offset + form.length ∧ Digits form word) ∧
    (∀ buffer offset, Reader.readAt read buffer offset = .error .malformedVarint ↔
      ¬ ∃ form word, form <+: buffer.drop offset ∧ Digits form word) ∧
    ∀ word, (encode word).length = size word ∧
      Reader.readAt read (encode word) 0 = .ok (word, size word) ∧
      ∀ bytes next, Reader.readAt read bytes 0 = .ok (word, next) →
        size word ≤ bytes.length ∧ (bytes.length = size word → bytes = encode word) := by
  refine ⟨fun _ _ _ _ => readAt_eq_ok_iff, fun _ _ => readAt_eq_error_iff, fun word => ?_⟩
  refine ⟨length_encode word, ?_, fun _ _ => shortest_of_readAt⟩
  have hdigits := digits_iff_form.mpr (encode_form word)
  exact readAt_eq_ok_iff.mpr ⟨encode word, List.prefix_rfl, by simp [length_encode], hdigits⟩

/-- The largest word takes ten bytes, the last of which is 1, and is read where they stand.  A tenth
byte of 2 is malformed.  Bytes that spell 300 with a zero behind it are one more than are needed. -/
theorem largest_word_read :
    Reader.readAt read ([0x80] ++ List.replicate 9 0xFF ++ [0x01, 0x05]) 1 =
        .ok (0xFFFFFFFFFFFFFFFF, 11) ∧
      (∀ word, ¬ Digits (List.replicate 9 0xFF ++ [0x02]) word) ∧
      Reader.readAt read [0xAC, 0x82, 0x00] 0 = .ok (300, 3) ∧ size 300 ≤ 3 := by
  obtain ⟨hdigits, hmalformed, hwords⟩ := digits_read_and_shortest_written
  have hlarge : Digits (List.replicate 9 0xFF ++ [0x01]) 0xFFFFFFFFFFFFFFFF :=
    ⟨by decide, by decide, by simp, by simp, by decide⟩
  have hlong : Reader.readAt read [0xAC, 0x82, 0x00] 0 = .ok (300, 3) := rfl
  refine ⟨?_, fun word hbig => ?_, hlong, ((hwords 300).2.2 _ _ hlong).1⟩
  · exact (hdigits _ _ _ _).mpr ⟨_, ⟨[0x05], rfl⟩, rfl, hlarge⟩
  · exact (hmalformed _ 0).mp rfl ⟨_, word, List.prefix_rfl, hbig⟩

end GatewayLogin.Varint
