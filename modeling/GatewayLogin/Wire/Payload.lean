/-
Payloads: what follows a tag, one layout per wire type.

Blocks carry their length in front; fixed-width words stand low byte first.  `skip` passes over a
payload of a given wire type and faults where reading it would.
-/
import GatewayLogin.Text.Utf8
import GatewayLogin.Wire.Tag

namespace GatewayLogin

/-- A block: the length of some bytes as a varint, then the bytes. -/
def Block.encode (bytes : Bytes) : Bytes :=
  Varint.encode bytes.length.toUInt64 ++ bytes

def Block.read : Reader Bytes :=
  Reader.bind Varint.read fun length => takeBytes length.toNat

/-- Read a block as text, unreadable parts replaced. -/
def Block.readText : Reader String :=
  Reader.map Text.lossy Block.read

/-- The number that some bytes spell, low byte first. -/
def littleEndian : Bytes → Nat
  | [] => 0
  | b :: rest => b.toNat + 256 * littleEndian rest

/-- The lowest `count` bytes of a number, low byte first. -/
def littleEndianBytes : (count : Nat) → Nat → Bytes
  | 0, _ => []
  | count + 1, n => (n % 256).toUInt8 :: littleEndianBytes count (n / 256)

def Fixed32.encode (word : UInt32) : Bytes :=
  littleEndianBytes 4 word.toNat

def Fixed32.read : Reader UInt32 :=
  Reader.map (fun bytes => (littleEndian bytes).toUInt32) (takeBytes 4)

def Fixed64.encode (word : UInt64) : Bytes :=
  littleEndianBytes 8 word.toNat

def Fixed64.read : Reader UInt64 :=
  Reader.map (fun bytes => (littleEndian bytes).toUInt64) (takeBytes 8)

/-- Pass over a payload of the given wire type. -/
def WireType.skip : WireType → Reader Unit
  | .varint => Reader.map (fun _ => ()) Varint.read
  | .fixed64 => Reader.map (fun _ => ()) (takeBytes 8)
  | .lengthDelimited => Reader.map (fun _ => ()) Block.read
  | .fixed32 => Reader.map (fun _ => ()) (takeBytes 4)

/-- Pass over a payload whose wire type is given by its bits. -/
def skipBits (bits : UInt8) : Reader Unit := fun bytes =>
  match WireType.ofBits bits with
  | .ok wireType => wireType.skip bytes
  | .error fault => .error fault

theorem Block.read_shortens : Reader.Shortens Block.read :=
  Varint.read_shortens.bind fun _ => takeBytes_shortens _

theorem Block.readText_shortens : Reader.Shortens Block.readText :=
  Block.read_shortens.map _

theorem WireType.skip_shortens (wireType : WireType) : Reader.Shortens wireType.skip := by
  cases wireType
  · exact Varint.read_shortens.map _
  · exact (takeBytes_shortens 8).map _
  · exact Block.read_shortens.map _
  · exact (takeBytes_shortens 4).map _

example : Fixed32.read [1, 2, 3, 4, 5] = .ok (0x04030201, [5]) := rfl

example : Block.read [0x05, 0x61, 0x62] = .error (.truncated 5 2) := rfl

end GatewayLogin
