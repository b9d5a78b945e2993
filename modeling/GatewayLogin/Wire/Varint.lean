/-
Varints: 64-bit words as bytes of seven bits each, lowest group first, every byte but the last
with its high bit set.

The writer gives the shortest form.  The reader also accepts longer forms, up to ten bytes; the
tenth byte may hold only the one bit that is left of 64.
-/
import GatewayLogin.Wire.Reader

namespace GatewayLogin.Varint

/-- The longest form of a 64-bit word. -/
def maxLength : Nat := 10

/-- How many bits a word has up to its highest set bit, at least one. -/
def bitLength (word : UInt64) : Nat :=
  (word ||| 1).toNat.log2 + 1

/-- How many bytes the shortest form of a word takes: one per started group of seven bits. -/
def size (word : UInt64) : Nat :=
  (bitLength word + 6) / 7

theorem toNat_shiftRight_seven (word : UInt64) : (word >>> 7).toNat = word.toNat / 128 := by
  simp only [UInt64.toNat_shiftRight, UInt64.reduceToNat, Nat.reduceMod, Nat.shiftRight_eq_div_pow,
    Nat.reducePow]

/-- The shortest form of a word.  As long as there are bits above the lowest seven, these go into a
byte with its high bit set, and the word is moved down by them. -/
def encode (word : UInt64) : Bytes :=
  if word < 0x80 then [word.toUInt8]
  else (word.toUInt8 &&& 0x7F ||| 0x80) :: encode (word >>> 7)
termination_by word.toNat
decreasing_by
  have hlarge : ¬ word.toNat < 128 := ‹¬ word < 0x80›
  rw [toNat_shiftRight_seven]
  omega

/-- The number at the front of a byte string that may take up to `room` bytes, and what follows
it.  The last byte there is room for must be 0 or 1. -/
def scan : (room : Nat) → Bytes → Option (Nat × Bytes)
  | 0, _ => none
  | _ + 1, [] => none
  | room + 1, b :: rest =>
      if room = 0 ∧ 1 < b then none
      else if b < 128 then some (b.toNat, rest)
      else
        match scan room rest with
        | some (n, rest) => some (b.toNat - 128 + 128 * n, rest)
        | none => none

/-- Read a word.  A byte string that ends inside it, or a form that is too long or too large, is
malformed. -/
def read : Reader UInt64 := fun bytes =>
  match scan maxLength bytes with
  | some (n, rest) => .ok (n.toUInt64, rest)
  | none => .error .malformedVarint

theorem scan_shortens {room : Nat} {bytes rest : Bytes} {n : Nat}
    (h : scan room bytes = some (n, rest)) : rest.length < bytes.length := by
  induction bytes generalizing room n with
  | nil => cases room <;> simp [scan] at h
  | cons b tail ih =>
      cases room with
      | zero => simp [scan] at h
      | succ room =>
          simp only [scan] at h
          split at h
          · cases h
          · split at h
            · cases h
              simp
            · split at h
              · rename_i m r hr
                cases h
                exact Nat.lt_of_lt_of_le (ih hr) (by simp)
              · cases h

theorem read_consumes {bytes rest : Bytes} {word : UInt64} (h : read bytes = .ok (word, rest)) :
    rest.length < bytes.length := by
  simp only [read] at h
  split at h
  · rename_i n r hr
    cases h
    exact scan_shortens hr
  · cases h

theorem read_shortens : Reader.Shortens read := fun _ _ _ h => Nat.le_of_lt (read_consumes h)

example : encode 300 = [0xAC, 0x02] := by decide +kernel

example : size 300 = 2 := by decide

example : read [0xAC, 0x02, 0x07] = .ok (300, [0x07]) := rfl

example : read (List.replicate 9 0xFF ++ [0x02]) = .error .malformedVarint := rfl

end GatewayLogin.Varint
