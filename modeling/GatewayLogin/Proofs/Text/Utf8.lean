/-
Reading back text that was written as UTF-8.

Each character is written as one to four bytes.  The first of them tells the reader how many are
owed and which second byte may come, and after the last the reader stands between characters again
(`Text.readFrom_utf8EncodeChar`), so that nothing is lost or replaced.  Main statement:
`Text.lossy_utf8`.
-/
import Mathlib.Tactic.SplitIfs
import GatewayLogin.Text.Utf8

namespace GatewayLogin.Text

theorem toNat_ofNat_of_lt {n : Nat} (h : n < 256) : (UInt8.ofNat n).toNat = n := by
  rw [UInt8.toNat_ofNat']
  exact Nat.mod_eq_of_lt h

/-- How a first byte is classified, by its number. -/
theorem lead_eq (b : UInt8) :
    lead b =
      if b.toNat < 0x80 then .whole (Char.ofNat b.toNat)
      else if b.toNat < 0xC2 then .stray
      else if b.toNat < 0xE0 then .opens ⟨0x80, 0xBF, 0, b.toNat - 0xC0⟩
      else if b.toNat = 0xE0 then .opens ⟨0xA0, 0xBF, 1, 0⟩
      else if b.toNat = 0xED then .opens ⟨0x80, 0x9F, 1, 0xD⟩
      else if b.toNat < 0xF0 then .opens ⟨0x80, 0xBF, 1, b.toNat - 0xE0⟩
      else if b.toNat = 0xF0 then .opens ⟨0x90, 0xBF, 2, 0⟩
      else if b.toNat < 0xF4 then .opens ⟨0x80, 0xBF, 2, b.toNat - 0xF0⟩
      else if b.toNat = 0xF4 then .opens ⟨0x80, 0x8F, 2, 4⟩
      else .stray := by
  simp only [lead, UInt8.lt_iff_toNat_lt, ← UInt8.toNat_inj]
  rfl

/-- The byte may come next in an unfinished character. -/
def Partial.Admits (p : Partial) (b : UInt8) : Prop :=
  p.low.toNat ≤ b.toNat ∧ b.toNat ≤ p.high.toNat

/-- The characters read on from where a byte of an unfinished character was taken, with what is
owed and the bits after it. -/
def resume (owed bits : Nat) (rest : Bytes) : List Char :=
  match owed with
  | 0 => Char.ofNat bits :: readFrom none rest
  | owed + 1 => readFrom (some ⟨0x80, 0xBF, owed, bits⟩) rest

theorem readFrom_of_lead {b : UInt8} {p : Partial} (h : lead b = .opens p) (rest : Bytes) :
    readFrom none (b :: rest) = readFrom (some p) rest := by
  simp [readFrom, advance, begin, h]

theorem readFrom_of_admits {p : Partial} {b : UInt8} (h : p.Admits b) (rest : Bytes) :
    readFrom (some p) (b :: rest) = resume p.owed (p.bits * 64 + b.toNat % 64) rest := by
  obtain ⟨low, high, owed, bits⟩ := p
  have hrange : low ≤ b ∧ b ≤ high := h
  simp only [readFrom, advance, if_pos hrange]
  cases owed <;> rfl

/-- Behind the second byte of a character every byte holds six more bits. -/
theorem resume_next (n owed bits : Nat) (rest : Bytes) :
    resume (owed + 1) bits (UInt8.ofNat (n % 64 + 128) :: rest) =
      resume owed (bits * 64 + n % 64) rest := by
  have hbyte := toNat_ofNat_of_lt (show n % 64 + 128 < 256 by omega)
  have hadmits : (⟨0x80, 0xBF, owed, bits⟩ : Partial).Admits (UInt8.ofNat (n % 64 + 128)) := by
    simp only [Partial.Admits, hbyte, UInt8.reduceToNat]
    omega
  have hlow : (n % 64 + 128) % 64 = n % 64 := by omega
  rw [resume, readFrom_of_admits hadmits, hbyte, hlow]

theorem lead_of_two {n : Nat} (hlow : 0x80 ≤ n) (hhigh : n < 0x800) :
    ∃ p, lead (UInt8.ofNat (n / 64 % 32 + 192)) = .opens p ∧ p.owed = 0 ∧ p.bits = n / 64 ∧
      p.Admits (UInt8.ofNat (n % 64 + 128)) := by
  rw [lead_eq, toNat_ofNat_of_lt (by omega), if_neg (by omega), if_neg (by omega),
    if_pos (by omega)]
  simp only [Partial.Admits, toNat_ofNat_of_lt (show n % 64 + 128 < 256 by omega)]
  exact ⟨_, rfl, rfl, by simp only; omega, by simp; omega⟩

/-- The first of three bytes shuts out overlong forms and surrogates, which no character is. -/
theorem lead_of_three {n : Nat} (hlow : 0x800 ≤ n) (hhigh : n < 0x10000)
    (hvalid : n < 0xD800 ∨ 0xDFFF < n) :
    ∃ p, lead (UInt8.ofNat (n / 4096 % 16 + 224)) = .opens p ∧ p.owed = 1 ∧ p.bits = n / 4096 ∧
      p.Admits (UInt8.ofNat (n / 64 % 64 + 128)) := by
  rw [lead_eq, toNat_ofNat_of_lt (by omega), if_neg (by omega), if_neg (by omega),
    if_neg (by omega)]
  simp only [Partial.Admits, toNat_ofNat_of_lt (show n / 64 % 64 + 128 < 256 by omega)]
  split_ifs with hfirst hsurrogate
  · exact ⟨_, rfl, rfl, by simp only; omega, by simp; omega⟩
  · exact ⟨_, rfl, rfl, by simp only; omega, by simp; omega⟩
  · exact ⟨_, rfl, rfl, by simp only; omega, by simp; omega⟩
  all_goals omega

theorem lead_of_four {n : Nat} (hlow : 0x10000 ≤ n) (hhigh : n < 0x110000) :
    ∃ p, lead (UInt8.ofNat (n / 262144 % 8 + 240)) = .opens p ∧ p.owed = 2 ∧
      p.bits = n / 262144 ∧ p.Admits (UInt8.ofNat (n / 4096 % 64 + 128)) := by
  rw [lead_eq, toNat_ofNat_of_lt (by omega), if_neg (by omega), if_neg (by omega),
    if_neg (by omega), if_neg (by omega), if_neg (by omega), if_neg (by omega)]
  simp only [Partial.Admits, toNat_ofNat_of_lt (show n / 4096 % 64 + 128 < 256 by omega)]
  split_ifs with hfirst hmiddle hlast
  · exact ⟨_, rfl, rfl, by simp only; omega, by simp; omega⟩
  · exact ⟨_, rfl, rfl, by simp only; omega, by simp; omega⟩
  · exact ⟨_, rfl, rfl, by simp only; omega, by simp; omega⟩
  · omega

/-- A character is read from the bytes that it is written as. -/
theorem readFrom_utf8EncodeChar (c : Char) (rest : Bytes) :
    readFrom none (String.utf8EncodeChar c ++ rest) = c :: readFrom none rest := by
  have hchar : Char.ofNat c.val.toNat = c := Char.ofNat_toNat c
  have hvalid : c.val.toNat < 0xD800 ∨ 0xDFFF < c.val.toNat ∧ c.val.toNat < 0x110000 := c.valid
  simp only [String.utf8EncodeChar]
  generalize c.val.toNat = n at hchar hvalid ⊢
  have hall : n / 64 * 64 + n % 64 = n := by omega
  split_ifs with hone htwo hthree <;> simp only [List.cons_append, List.nil_append]
  · rw [readFrom, advance, begin, lead_eq, toNat_ofNat_of_lt (by omega), if_pos (by omega), hchar]
    rfl
  · obtain ⟨p, hlead, howed, hbits, hadmits⟩ := lead_of_two (n := n) (by omega) (by omega)
    have hsecond := toNat_ofNat_of_lt (show n % 64 + 128 < 256 by omega)
    have hnext : n / 64 * 64 + (n % 64 + 128) % 64 = n := by omega
    rw [readFrom_of_lead hlead, readFrom_of_admits hadmits, howed, hbits, hsecond, hnext, resume,
      hchar]
  · obtain ⟨p, hlead, howed, hbits, hadmits⟩ :=
      lead_of_three (n := n) (by omega) (by omega) (by omega)
    have hsecond := toNat_ofNat_of_lt (show n / 64 % 64 + 128 < 256 by omega)
    have hnext : n / 4096 * 64 + (n / 64 % 64 + 128) % 64 = n / 64 := by omega
    rw [readFrom_of_lead hlead, readFrom_of_admits hadmits, howed, hbits, hsecond, hnext,
      resume_next, hall, resume, hchar]
  · obtain ⟨p, hlead, howed, hbits, hadmits⟩ := lead_of_four (n := n) (by omega) (by omega)
    have hsecond := toNat_ofNat_of_lt (show n / 4096 % 64 + 128 < 256 by omega)
    have hnext : n / 262144 * 64 + (n / 4096 % 64 + 128) % 64 = n / 4096 := by omega
    have hthird : n / 4096 * 64 + n / 64 % 64 = n / 64 := by omega
    rw [readFrom_of_lead hlead, readFrom_of_admits hadmits, howed, hbits, hsecond, hnext,
      resume_next, hthird, resume_next, hall, resume, hchar]

theorem readFrom_flatMap (chars : List Char) :
    readFrom none (chars.flatMap String.utf8EncodeChar) = chars := by
  induction chars with
  | nil => rfl
  | cons c chars ih => rw [List.flatMap_cons, readFrom_utf8EncodeChar, ih]

/-- Text that was written is read back as it was. -/
theorem lossy_utf8 (text : String) : lossy (utf8 text) = text := by
  rw [lossy, utf8, readFrom_flatMap, String.ofList_toList]

theorem utf8_eq_nil_iff {text : String} : utf8 text = [] ↔ text = "" := by
  constructor
  · intro h
    have hread := lossy_utf8 text
    rw [h] at hread
    exact hread.symm
  · rintro rfl
    rfl

end GatewayLogin.Text
