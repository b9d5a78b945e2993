/-
What unreadable bytes are read as.

A run of bytes is unreadable if it is the longest front of a character that does not go on as that
character would, or a single byte that no character has in front.  Reading gives each character for
the bytes it is written as and one replacement character for each unreadable run, and nothing else
can be read from the bytes.  Main statement: `Text.lossy_iff`.
-/
import Mathlib.Data.List.Induction
import GatewayLogin.Proofs.Text.Utf8

namespace GatewayLogin.Text

/-- Some character is written with these bytes in front. -/
def IsFront (bytes : Bytes) : Prop :=
  ∃ c : Char, bytes <+: String.utf8EncodeChar c

/-- The run cannot be read where `rest` comes after it. -/
inductive Unreadable : Bytes → Bytes → Prop where
  /-- A character begins and is not completed, and one more byte would not be its front. -/
  | unfinished {run rest : Bytes} (hfront : IsFront run) (hnonempty : run ≠ [])
      (hchar : ∀ c, run ≠ String.utf8EncodeChar c)
      (hstop : ∀ b, rest.head? = some b → ¬ IsFront (run ++ [b])) : Unreadable run rest
  /-- No character begins. -/
  | stray {b : UInt8} {rest : Bytes} (hfront : ¬ IsFront [b]) : Unreadable [b] rest

/-- The characters that bytes are read as, with U+FFFD for each unreadable run. -/
inductive Lossy : Bytes → List Char → Prop where
  | nil : Lossy [] []
  | char (c : Char) {rest : Bytes} {chars : List Char} (hrest : Lossy rest chars) :
      Lossy (String.utf8EncodeChar c ++ rest) (c :: chars)
  | unreadable {run rest : Bytes} {chars : List Char} (hrun : Unreadable run rest)
      (hrest : Lossy rest chars) : Lossy (run ++ rest) ('\ufffd' :: chars)

theorem IsFront.of_append {front rest : Bytes} (h : IsFront (front ++ rest)) : IsFront front := by
  obtain ⟨c, hc⟩ := h
  exact ⟨c, (List.prefix_append front rest).trans hc⟩

theorem readFrom_of_not_admits {p : Partial} {b : UInt8} (h : ¬ p.Admits b) (rest : Bytes) :
    readFrom (some p) (b :: rest) = replacement :: readFrom none (b :: rest) := by
  have hrange : ¬ (p.low ≤ b ∧ b ≤ p.high) := h
  simp only [readFrom, advance, if_neg hrange, List.cons_append]

theorem readFrom_of_stray {b : UInt8} (h : lead b = .stray) (rest : Bytes) :
    readFrom none (b :: rest) = replacement :: readFrom none rest := by
  simp only [readFrom, advance, begin, h, List.cons_append, List.nil_append]

/-- An unfinished character is read as something, whatever comes. -/
theorem readFrom_some_ne_nil (p : Partial) (bytes : Bytes) : readFrom (some p) bytes ≠ [] := by
  induction bytes generalizing p with
  | nil => simp [readFrom]
  | cons b rest ih =>
      by_cases hadmits : p.Admits b
      · rw [readFrom_of_admits hadmits]
        cases p.owed with
        | zero => simp [resume]
        | succ owed => exact ih _
      · simp [readFrom_of_not_admits hadmits]

theorem readFrom_none_ne_nil (b : UInt8) (rest : Bytes) : readFrom none (b :: rest) ≠ [] := by
  cases hlead : lead b with
  | whole c => simp [readFrom, advance, begin, hlead]
  | opens p =>
      rw [readFrom_of_lead hlead]
      exact readFrom_some_ne_nil p rest
  | stray => simp [readFrom, advance, begin, hlead]

theorem readFrom_char (c : Char) : readFrom none (String.utf8EncodeChar c) = [c] := by
  simpa [readFrom] using readFrom_utf8EncodeChar c []

/-- No character is written as the bytes of another with more behind them. -/
theorem utf8EncodeChar_ne_append (c other : Char) (b : UInt8) (rest : Bytes) :
    String.utf8EncodeChar other ≠ String.utf8EncodeChar c ++ b :: rest := by
  intro h
  have hother := readFrom_char other
  rw [h, readFrom_utf8EncodeChar] at hother
  exact readFrom_none_ne_nil b rest (List.cons.inj hother).2

/-- The reader stands inside a character after these bytes of it. -/
inductive Reaches : Bytes → Partial → Prop where
  | opens {b : UInt8} {p : Partial} (hlead : lead b = .opens p) : Reaches [b] p
  | goesOn {run : Bytes} {p : Partial} {b : UInt8} {owed : Nat} (hrun : Reaches run p)
      (howed : p.owed = owed + 1) (hadmits : p.Admits b) :
      Reaches (run ++ [b]) ⟨0x80, 0xBF, owed, p.bits * 64 + b.toNat % 64⟩

theorem Reaches.readFrom {run : Bytes} {p : Partial} (h : Reaches run p) (rest : Bytes) :
    readFrom none (run ++ rest) = Text.readFrom (some p) rest := by
  induction h generalizing rest with
  | opens hlead => exact readFrom_of_lead hlead rest
  | goesOn hrun howed hadmits ih =>
      rw [List.append_assoc, ih, List.cons_append, List.nil_append, readFrom_of_admits hadmits,
        howed, resume]

/-- What is known of an unfinished character whose first byte has the number `n`.  The ranges of the
second byte shut out overlong forms, surrogates and what lies beyond U+10FFFF. -/
def Partial.Opened (p : Partial) (n : Nat) : Prop :=
  p.low ≤ p.high ∧ 0x80 ≤ p.low.toNat ∧ p.high.toNat ≤ 0xBF ∧
    ((p.owed = 0 ∧ p.bits = n - 0xC0 ∧ 0xC2 ≤ n ∧ n < 0xE0) ∨
      (p.owed = 1 ∧ p.bits = n - 0xE0 ∧ 0xE0 ≤ n ∧ n < 0xF0 ∧
        (n = 0xE0 → 0xA0 ≤ p.low.toNat) ∧ (n = 0xED → p.high.toNat ≤ 0x9F)) ∨
      (p.owed = 2 ∧ p.bits = n - 0xF0 ∧ 0xF0 ≤ n ∧ n ≤ 0xF4 ∧
        (n = 0xF0 → 0x90 ≤ p.low.toNat) ∧ (n = 0xF4 → p.high.toNat ≤ 0x8F)))

theorem lead_cases (b : UInt8) :
    (∃ c, lead b = .whole c ∧ b.toNat < 0x80 ∧ c = Char.ofNat b.toNat) ∨
      (∃ p, lead b = .opens p ∧ p.Opened b.toNat) ∨ lead b = .stray := by
  rw [lead_eq]
  generalize b.toNat = n
  by_cases hascii : n < 0x80
  · exact .inl ⟨_, if_pos hascii, hascii, rfl⟩
  refine .inr ?_
  rw [if_neg hascii]
  by_cases htail : n < 0xC2
  · exact .inr (if_pos htail)
  rw [if_neg htail]
  by_cases htwo : n < 0xE0
  · exact .inl ⟨_, if_pos htwo, by simp [Partial.Opened]; omega⟩
  rw [if_neg htwo]
  by_cases hoverlong : n = 0xE0
  · exact .inl ⟨_, if_pos hoverlong, by simp [Partial.Opened]; omega⟩
  rw [if_neg hoverlong]
  by_cases hsurrogate : n = 0xED
  · exact .inl ⟨_, if_pos hsurrogate, by simp [Partial.Opened]; omega⟩
  rw [if_neg hsurrogate]
  by_cases hthree : n < 0xF0
  · exact .inl ⟨_, if_pos hthree, by simp [Partial.Opened]; omega⟩
  rw [if_neg hthree]
  by_cases hshort : n = 0xF0
  · exact .inl ⟨_, if_pos hshort, by simp [Partial.Opened]; omega⟩
  rw [if_neg hshort]
  by_cases hfour : n < 0xF4
  · exact .inl ⟨_, if_pos hfour, by simp [Partial.Opened]; omega⟩
  rw [if_neg hfour]
  by_cases hlast : n = 0xF4
  · exact .inl ⟨_, if_pos hlast, by simp [Partial.Opened]; omega⟩
  · exact .inr (if_neg hlast)

theorem opened_of_lead {b : UInt8} {p : Partial} (h : lead b = .opens p) : p.Opened b.toNat := by
  rcases lead_cases b with ⟨c, hwhole, -⟩ | ⟨q, hopens, hq⟩ | hstray
  · cases h.symm.trans hwhole
  · cases h.symm.trans hopens
    exact hq
  · cases h.symm.trans hstray

theorem Reaches.admits_low {run : Bytes} {p : Partial} (h : Reaches run p) : p.Admits p.low := by
  cases h with
  | opens hlead => exact ⟨Nat.le_refl _, (opened_of_lead hlead).1⟩
  | goesOn => simp [Partial.Admits]

theorem toNat_val_ofNat {n : Nat} (h : n.isValidChar) : (Char.ofNat n).val.toNat = n := by
  rw [Char.ofNat, dif_pos h]
  rfl

theorem utf8EncodeChar_of_lead {b : UInt8} {c : Char} (h : lead b = .whole c) :
    String.utf8EncodeChar c = [b] := by
  rcases lead_cases b with ⟨d, hwhole, hlow, rfl⟩ | ⟨p, hopens, -⟩ | hstray
  · cases h.symm.trans hwhole
    simp only [String.utf8EncodeChar, toNat_val_ofNat (n := b.toNat) (Or.inl (by omega)),
      if_pos (show b.toNat ≤ 127 by omega), UInt8.ofNat_toNat]
  · cases h.symm.trans hopens
  · cases h.symm.trans hstray

/-- The number of a byte is the one it was made from. -/
theorem ofNat_eq_of_toNat {b : UInt8} {n : Nat} (h : b.toNat = n) : UInt8.ofNat n = b := by
  rw [← h, UInt8.ofNat_toNat]

theorem utf8EncodeChar_two {a b : UInt8} {p : Partial} (hlead : lead a = .opens p)
    (howed : p.owed = 0) (hb : p.Admits b) :
    String.utf8EncodeChar (Char.ofNat (p.bits * 64 + b.toNat % 64)) = [a, b] := by
  obtain ⟨-, hlow, hhigh, hcases⟩ := opened_of_lead hlead
  obtain ⟨hblow, hbhigh⟩ := hb
  obtain ⟨n, hn⟩ : ∃ n, n = p.bits * 64 + b.toNat % 64 := ⟨_, rfl⟩
  have hbits : p.bits = a.toNat - 0xC0 ∧ 0xC2 ≤ a.toNat ∧ a.toNat < 0xE0 := by omega
  have hfirst : a.toNat = n / 64 % 32 + 192 := by omega
  have hsecond : b.toNat = n % 64 + 128 := by omega
  rw [← hn]
  simp only [String.utf8EncodeChar, toNat_val_ofNat (n := n) (Or.inl (by omega))]
  rw [if_neg (by omega), if_pos (by omega), ofNat_eq_of_toNat hfirst, ofNat_eq_of_toNat hsecond]

theorem utf8EncodeChar_three {a b c : UInt8} {p : Partial} (hlead : lead a = .opens p)
    (howed : p.owed = 1) (hb : p.Admits b) (hc : 0x80 ≤ c.toNat ∧ c.toNat ≤ 0xBF) :
    String.utf8EncodeChar (Char.ofNat ((p.bits * 64 + b.toNat % 64) * 64 + c.toNat % 64)) =
      [a, b, c] := by
  obtain ⟨-, hlow, hhigh, hcases⟩ := opened_of_lead hlead
  obtain ⟨hblow, hbhigh⟩ := hb
  obtain ⟨n, hn⟩ : ∃ n, n = (p.bits * 64 + b.toNat % 64) * 64 + c.toNat % 64 := ⟨_, rfl⟩
  have hbits : p.bits = a.toNat - 0xE0 ∧ 0xE0 ≤ a.toNat ∧ a.toNat < 0xF0 := by omega
  have hsecondByte : 0x80 ≤ b.toNat ∧ b.toNat ≤ 0xBF ∧ (a.toNat = 0xE0 → 0xA0 ≤ b.toNat) ∧
      (a.toNat = 0xED → b.toNat ≤ 0x9F) := by omega
  clear hcases hlow hhigh hblow hbhigh
  have hfirst : a.toNat = n / 4096 % 16 + 224 := by omega
  have hsecond : b.toNat = n / 64 % 64 + 128 := by omega
  have hthird : c.toNat = n % 64 + 128 := by omega
  have hvalid : n.isValidChar := by
    simp only [Nat.isValidChar]
    omega
  rw [← hn]
  simp only [String.utf8EncodeChar, toNat_val_ofNat hvalid]
  rw [if_neg (by omega), if_neg (by omega), if_pos (by omega), ofNat_eq_of_toNat hfirst,
    ofNat_eq_of_toNat hsecond, ofNat_eq_of_toNat hthird]

theorem utf8EncodeChar_four {a b c d : UInt8} {p : Partial} (hlead : lead a = .opens p)
    (howed : p.owed = 2) (hb : p.Admits b) (hc : 0x80 ≤ c.toNat ∧ c.toNat ≤ 0xBF)
    (hd : 0x80 ≤ d.toNat ∧ d.toNat ≤ 0xBF) :
    String.utf8EncodeChar (Char.ofNat
        (((p.bits * 64 + b.toNat % 64) * 64 + c.toNat % 64) * 64 + d.toNat % 64)) =
      [a, b, c, d] := by
  obtain ⟨-, hlow, hhigh, hcases⟩ := opened_of_lead hlead
  obtain ⟨hblow, hbhigh⟩ := hb
  obtain ⟨n, hn⟩ : ∃ n,
      n = ((p.bits * 64 + b.toNat % 64) * 64 + c.toNat % 64) * 64 + d.toNat % 64 := ⟨_, rfl⟩
  have hbits : p.bits = a.toNat - 0xF0 ∧ 0xF0 ≤ a.toNat ∧ a.toNat ≤ 0xF4 := by omega
  have hsecondByte : 0x80 ≤ b.toNat ∧ b.toNat ≤ 0xBF ∧ (a.toNat = 0xF0 → 0x90 ≤ b.toNat) ∧
      (a.toNat = 0xF4 → b.toNat ≤ 0x8F) := by omega
  clear hcases hlow hhigh hblow hbhigh
  have hfirst : a.toNat = n / 262144 % 8 + 240 := by omega
  have hsecond : b.toNat = n / 4096 % 64 + 128 := by omega
  have hthird : c.toNat = n / 64 % 64 + 128 := by omega
  have hfourth : d.toNat = n % 64 + 128 := by omega
  have hvalid : n.isValidChar := by
    simp only [Nat.isValidChar]
    omega
  rw [← hn]
  simp only [String.utf8EncodeChar, toNat_val_ofNat hvalid]
  rw [if_neg (by omega), if_neg (by omega), if_neg (by omega), ofNat_eq_of_toNat hfirst,
    ofNat_eq_of_toNat hsecond, ofNat_eq_of_toNat hthird, ofNat_eq_of_toNat hfourth]

theorem Reaches.owed_le {run : Bytes} {p : Partial} (h : Reaches run p) : p.owed ≤ 2 := by
  induction h with
  | opens hlead =>
      obtain ⟨-, -, -, hcases⟩ := opened_of_lead hlead
      omega
  | goesOn hrun howed hadmits ih =>
      rw [howed] at ih
      exact Nat.le_of_succ_le ih

/-- The byte that is owed last completes a character. -/
theorem Reaches.completes {run : Bytes} {p : Partial} {b : UInt8} (h : Reaches run p)
    (howed : p.owed = 0) (hadmits : p.Admits b) :
    String.utf8EncodeChar (Char.ofNat (p.bits * 64 + b.toNat % 64)) = run ++ [b] := by
  -- A character has two, three or four bytes: one case for each.
  cases h with
  | opens hlead => exact utf8EncodeChar_two hlead howed hadmits
  | goesOn hrun howed₁ hadmits₁ =>
      cases howed
      cases hrun with
      | opens hlead => exact utf8EncodeChar_three hlead howed₁ hadmits₁ hadmits
      | goesOn hrun howed₂ hadmits₂ =>
          cases howed₁
          cases hrun with
          | opens hlead => exact utf8EncodeChar_four hlead howed₂ hadmits₂ hadmits₁ hadmits
          | goesOn hrun howed₃ hadmits₃ =>
              cases howed₂
              have hbound := hrun.owed_le
              rw [howed₃] at hbound
              exact absurd hbound (by decide)

/-- Whatever byte the reader admits, some character goes on with it. -/
theorem Reaches.isFront_concat {run : Bytes} {p : Partial} {b : UInt8} (h : Reaches run p)
    (hadmits : p.Admits b) : IsFront (run ++ [b]) := by
  obtain ⟨owed, howed⟩ : ∃ owed, p.owed = owed := ⟨_, rfl⟩
  induction owed generalizing run p b with
  | zero =>
      refine ⟨Char.ofNat (p.bits * 64 + b.toNat % 64), [], ?_⟩
      rw [List.append_nil, h.completes howed hadmits]
  | succ owed ih =>
      have hnext := h.goesOn howed hadmits
      exact (ih hnext hnext.admits_low rfl).of_append

theorem Reaches.isFront {run : Bytes} {p : Partial} (h : Reaches run p) : IsFront run :=
  (h.isFront_concat h.admits_low).of_append

/-- The bytes of a character are not those after which the reader stands inside one. -/
theorem Reaches.ne_utf8EncodeChar {run : Bytes} {p : Partial} (h : Reaches run p) (c : Char) :
    run ≠ String.utf8EncodeChar c := by
  rintro rfl
  obtain ⟨other, rest, hother⟩ := h.isFront_concat h.admits_low
  rw [List.append_assoc] at hother
  exact utf8EncodeChar_ne_append c other _ _ hother.symm

/-- The reader admits each byte with which some character goes on. -/
theorem Reaches.admits_of_isFront {run : Bytes} {p : Partial} {b : UInt8} (h : Reaches run p)
    (hfront : IsFront (run ++ [b])) : p.Admits b := by
  by_contra hadmits
  obtain ⟨c, rest, hc⟩ := hfront
  have hread := readFrom_char c
  rw [← hc, List.append_assoc, h.readFrom, List.cons_append, readFrom_of_not_admits hadmits]
    at hread
  exact readFrom_none_ne_nil _ _ (List.cons.inj hread).2

/-- Only U+FFFD could be read where a stray byte stands, and its bytes begin with none. -/
theorem not_isFront_of_stray {b : UInt8} (h : lead b = .stray) : ¬ IsFront [b] := by
  rintro ⟨c, rest, hc⟩
  have hread := readFrom_char c
  rw [← hc, List.cons_append, List.nil_append, readFrom_of_stray h] at hread
  obtain ⟨rfl, -⟩ := List.cons.inj hread
  have hfirst : b = 0xEF := (List.cons.inj hc).1
  rw [hfirst] at h
  exact absurd h (by decide)

/-- A front of a character that is not a whole one leaves the reader inside it. -/
theorem IsFront.reaches {run : Bytes} (hfront : IsFront run) (hnonempty : run ≠ [])
    (hchar : ∀ c, run ≠ String.utf8EncodeChar c) : ∃ p, Reaches run p := by
  induction run using List.reverseRecOn with
  | nil => exact absurd rfl hnonempty
  | append_singleton before b ih =>
      by_cases hbefore : before = []
      · subst hbefore
        cases hlead : lead b with
        | whole c => exact absurd (utf8EncodeChar_of_lead hlead).symm (hchar c)
        | opens p => exact ⟨p, .opens hlead⟩
        | stray => exact absurd hfront (not_isFront_of_stray hlead)
      · have hshort : ∀ c, before ≠ String.utf8EncodeChar c := by
          rintro c rfl
          obtain ⟨other, rest, hother⟩ := hfront
          rw [List.append_assoc] at hother
          exact utf8EncodeChar_ne_append c other b rest hother.symm
        obtain ⟨p, hp⟩ := ih hfront.of_append hbefore hshort
        have hadmits := hp.admits_of_isFront hfront
        cases howed : p.owed with
        | zero => exact absurd (hp.completes howed hadmits).symm (hchar _)
        | succ owed => exact ⟨_, hp.goesOn howed hadmits⟩

/-- An unreadable run is read as one replacement character. -/
theorem Unreadable.readFrom {run rest : Bytes} (h : Unreadable run rest) :
    readFrom none (run ++ rest) = replacement :: readFrom none rest := by
  cases h with
  | unfinished hfront hnonempty hchar hstop =>
      obtain ⟨p, hp⟩ := hfront.reaches hnonempty hchar
      rw [hp.readFrom]
      cases rest with
      | nil => rfl
      | cons b rest =>
          refine readFrom_of_not_admits (fun hadmits => ?_) rest
          exact hstop b rfl (hp.isFront_concat hadmits)
  | @stray b _ hfront =>
      cases hlead : lead b with
      | whole c =>
          exact absurd ⟨c, utf8EncodeChar_of_lead hlead ▸ List.prefix_rfl⟩ hfront
      | opens p => exact absurd (Reaches.opens hlead).isFront hfront
      | stray => exact readFrom_of_stray hlead rest

/-- From inside a character, bytes have either the whole of one or an unreadable run in front. -/
theorem Reaches.divides {run : Bytes} {p : Partial} (h : Reaches run p) (bytes : Bytes) :
    (∃ c rest, run ++ bytes = String.utf8EncodeChar c ++ rest) ∨
      ∃ front rest, run ++ bytes = front ++ rest ∧ front ≠ [] ∧ Unreadable front rest := by
  have hnonempty : run ≠ [] := by cases h <;> simp
  induction bytes generalizing run p with
  | nil =>
      refine .inr ⟨run, [], rfl, hnonempty, ?_⟩
      exact .unfinished h.isFront hnonempty h.ne_utf8EncodeChar (by simp)
  | cons b bytes ih =>
      have hsplit : run ++ b :: bytes = (run ++ [b]) ++ bytes := by simp
      by_cases hadmits : p.Admits b
      · cases howed : p.owed with
        | zero => exact .inl ⟨_, bytes, hsplit.trans (by rw [h.completes howed hadmits])⟩
        | succ owed =>
            rw [hsplit]
            exact ih (h.goesOn howed hadmits) (by simp)
      · refine .inr ⟨run, b :: bytes, rfl, hnonempty, ?_⟩
        refine .unfinished h.isFront hnonempty h.ne_utf8EncodeChar fun next hnext hfront => ?_
        cases hnext
        exact hadmits (h.admits_of_isFront hfront)

/-- Bytes have either a whole character or an unreadable run in front. -/
theorem divides_of_ne_nil {bytes : Bytes} (h : bytes ≠ []) :
    (∃ c rest, bytes = String.utf8EncodeChar c ++ rest) ∨
      ∃ front rest, bytes = front ++ rest ∧ front ≠ [] ∧ Unreadable front rest := by
  obtain ⟨b, rest, rfl⟩ := List.exists_cons_of_ne_nil h
  cases hlead : lead b with
  | whole c => exact .inl ⟨c, rest, by rw [utf8EncodeChar_of_lead hlead]; rfl⟩
  | opens p => exact (Reaches.opens hlead).divides rest
  | stray => exact .inr ⟨[b], rest, rfl, by simp, .stray (not_isFront_of_stray hlead)⟩

theorem Lossy.eq_readFrom {bytes : Bytes} {chars : List Char} (h : Lossy bytes chars) :
    chars = readFrom none bytes := by
  induction h with
  | nil => rfl
  | char c hrest ih => rw [readFrom_utf8EncodeChar, ih]
  | unreadable hrun hrest ih => rw [hrun.readFrom, ih, replacement]

theorem lossy_readFrom (bytes : Bytes) : Lossy bytes (readFrom none bytes) := by
  induction hsize : bytes.length using Nat.strongRecOn generalizing bytes with
  | ind size ih =>
      by_cases hbytes : bytes = []
      · subst hbytes
        exact .nil
      · rcases divides_of_ne_nil hbytes with ⟨c, rest, rfl⟩ | ⟨front, rest, rfl, hfront, hrun⟩
        · rw [readFrom_utf8EncodeChar]
          have hlength := List.length_pos_iff.mpr (String.utf8EncodeChar_ne_nil (c := c))
          rw [List.length_append] at hsize
          exact .char c (ih rest.length (by omega) rest rfl)
        · rw [hrun.readFrom]
          have hlength := List.length_pos_iff.mpr hfront
          rw [List.length_append] at hsize
          exact .unreadable hrun (ih rest.length (by omega) rest rfl)

/-- Bytes are read as the one text that their characters and unreadable runs allow. -/
theorem lossy_iff {bytes : Bytes} {text : String} :
    Lossy bytes text.toList ↔ text = lossy bytes := by
  constructor
  · intro h
    rw [lossy, ← h.eq_readFrom, String.ofList_toList]
  · rintro rfl
    rw [lossy, String.toList_ofList]
    exact lossy_readFrom bytes

end GatewayLogin.Text
