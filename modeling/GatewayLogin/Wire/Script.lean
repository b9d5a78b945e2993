/-
Scripts: sequences of single reads and single writes.

Reads walk one buffer: each success moves the offset to the next unread byte, a fault leaves it
where it was.  Writes grow one buffer: a refused write leaves it as it was.
-/
import GatewayLogin.Wire.Payload

namespace GatewayLogin

inductive Read where
  | varint
  | tag
  | block
  | text
  | fixed32
  | fixed64
  /-- Pass over a payload whose wire type is given by its bits. -/
  | skip (bits : UInt8)
deriving Repr, DecidableEq

inductive ReadValue where
  | varint (word : UInt64)
  | tag (tag : Tag)
  | block (bytes : Bytes)
  | text (text : String)
  | fixed32 (word : UInt32)
  | fixed64 (word : UInt64)
  /-- A payload was passed over. -/
  | skipped
deriving Repr, DecidableEq

def Read.reader : Read → Reader ReadValue
  | .varint => Reader.map .varint Varint.read
  | .tag => Reader.map .tag Tag.read
  | .block => Reader.map .block Block.read
  | .text => Reader.map .text Block.readText
  | .fixed32 => Reader.map .fixed32 Fixed32.read
  | .fixed64 => Reader.map .fixed64 Fixed64.read
  | .skip bits => Reader.map (fun _ => .skipped) (skipBits bits)

/-- One read inside a buffer: its value and the offset of the next unread byte. -/
def Read.runAt (read : Read) (buffer : Bytes) (offset : Nat) : Except Fault (ReadValue × Nat) :=
  Reader.readAt read.reader buffer offset

/-- The answers of several reads, each from where the last success ended. -/
def runReads (buffer : Bytes) : Nat → List Read → List (Except Fault (ReadValue × Nat))
  | _, [] => []
  | offset, read :: rest =>
      match read.runAt buffer offset with
      | .ok (value, next) => .ok (value, next) :: runReads buffer next rest
      | .error fault => .error fault :: runReads buffer offset rest

inductive Write where
  | varint (word : UInt64)
  /-- A tag, checked before it is written: first the bits, then the field number. -/
  | tag (fieldNumber : UInt32) (bits : UInt8)
  | block (bytes : Bytes)
  | fixed32 (word : UInt32)
  | fixed64 (word : UInt64)
deriving Repr, DecidableEq

/-- A tag made from a field number and wire-type bits. -/
def Tag.ofParts (fieldNumber : UInt32) (bits : UInt8) : Except Fault Tag :=
  match WireType.ofBits bits with
  | .ok wireType => Tag.new fieldNumber wireType
  | .error fault => .error fault

def Write.bytes : Write → Except Fault Bytes
  | .varint word => .ok (Varint.encode word)
  | .tag fieldNumber bits => (Tag.ofParts fieldNumber bits).map Tag.encode
  | .block bytes => .ok (Block.encode bytes)
  | .fixed32 word => .ok (Fixed32.encode word)
  | .fixed64 word => .ok (Fixed64.encode word)

/-- The buffer after each of several writes, or the fault of one that was refused. -/
def runWrites : Bytes → List Write → List (Except Fault Bytes)
  | _, [] => []
  | buffer, write :: rest =>
      match write.bytes with
      | .ok bytes => .ok (buffer ++ bytes) :: runWrites (buffer ++ bytes) rest
      | .error fault => .error fault :: runWrites buffer rest

end GatewayLogin
