/-
Tags: the header in front of every field of a message, a field number and a wire type packed into
one varint.
-/
import GatewayLogin.Wire.Varint

namespace GatewayLogin

/-- How the payload of a field is laid out. -/
inductive WireType where
  /-- A varint. -/
  | varint
  /-- Eight bytes, low byte first. -/
  | fixed64
  /-- A varint length and that many bytes. -/
  | lengthDelimited
  /-- Four bytes, low byte first. -/
  | fixed32
deriving Repr, DecidableEq

/-- The three bits that stand for a wire type in a tag. -/
def WireType.bits : WireType → UInt8
  | .varint => 0
  | .fixed64 => 1
  | .lengthDelimited => 2
  | .fixed32 => 5

/-- The wire type that some bits stand for. -/
def WireType.ofBits (bits : UInt8) : Except Fault WireType :=
  if bits = 0 then .ok .varint
  else if bits = 1 then .ok .fixed64
  else if bits = 2 then .ok .lengthDelimited
  else if bits = 5 then .ok .fixed32
  else .error (.unsupportedWireType bits)

@[simp] theorem WireType.ofBits_bits (wireType : WireType) :
    ofBits wireType.bits = .ok wireType := by
  cases wireType <;> rfl

structure Tag where
  fieldNumber : UInt32
  wireType : WireType
deriving Repr, DecidableEq

namespace Tag

/-- The largest field number a tag may carry. -/
def maxFieldNumber : Nat := (1 <<< 29) - 1

/-- A tag for a field number that lies in the admitted range. -/
def new (fieldNumber : UInt32) (wireType : WireType) : Except Fault Tag :=
  if fieldNumber = 0 ∨ maxFieldNumber < fieldNumber.toNat then
    .error (.invalidTag fieldNumber.toUInt64)
  else .ok ⟨fieldNumber, wireType⟩

/-- The packed word: the field number above the three bits of the wire type. -/
def value (tag : Tag) : UInt64 :=
  (tag.fieldNumber.toNat * 8 + tag.wireType.bits.toNat).toUInt64

def encode (tag : Tag) : Bytes :=
  Varint.encode tag.value

/-- The tag that a packed word stands for.  The field number is judged before the wire type. -/
def ofValue (raw : UInt64) : Except Fault Tag :=
  let fieldNumber := raw.toNat / 8
  if fieldNumber = 0 ∨ maxFieldNumber < fieldNumber then .error (.invalidTag raw)
  else
    match WireType.ofBits (raw.toNat % 8).toUInt8 with
    | .ok wireType => .ok ⟨fieldNumber.toUInt32, wireType⟩
    | .error fault => .error fault

def read : Reader Tag := fun bytes =>
  match Varint.read bytes with
  | .ok (raw, rest) =>
      match ofValue raw with
      | .ok tag => .ok (tag, rest)
      | .error fault => .error fault
  | .error fault => .error fault

theorem read_consumes {bytes rest : Bytes} {tag : Tag} (h : read bytes = .ok (tag, rest)) :
    rest.length < bytes.length := by
  simp only [read] at h
  split at h
  · rename_i raw r hr
    split at h
    · cases h
      exact Varint.read_consumes hr
    · cases h
  · cases h

example : value ⟨3, .lengthDelimited⟩ = 0x1A := by decide

example : read [0x1A, 0x00] = .ok (⟨3, .lengthDelimited⟩, [0x00]) := rfl

example : read [0x0B] = .error (.unsupportedWireType 3) := rfl

end Tag

end GatewayLogin
