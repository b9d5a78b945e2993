/-
Packets: the responses of the gateway, and the envelope around requests to it.

| field | holds      | layout |
|-------|------------|--------|
| 1     | command    | varint |
| 2     | request id | varint |
| 3     | code       | varint |
| 4     | message    | block  |
| 5     | data       | block  |

Writing leaves out every zero or empty field.  Reading takes fields in any order, the last of each
winning, and passes over whatever it does not know; `Packet.receive` turns an unreadable frame into
one fixed packet.
-/
import GatewayLogin.Wire.Schema
import GatewayLogin.Framing

namespace GatewayLogin

inductive Command where
  | signIn
  | other (number : UInt32)
deriving Repr, DecidableEq

def Command.signInNumber : UInt32 := 1

def Command.number : Command → UInt32
  | .signIn => signInNumber
  | .other number => number

def Command.ofNumber (number : UInt32) : Command :=
  if number = signInNumber then .signIn else .other number

/-- A response, or the envelope of a request. -/
structure Packet where
  command : UInt32 := 0
  requestId : UInt64 := 0
  code : Int32 := 0
  message : String := ""
  data : Option Bytes := none
deriving Repr, DecidableEq, Inhabited

namespace Packet

def commandTag : Tag := ⟨1, .varint⟩

def requestIdTag : Tag := ⟨2, .varint⟩

def codeTag : Tag := ⟨3, .varint⟩

def messageTag : Tag := ⟨4, .lengthDelimited⟩

def dataTag : Tag := ⟨5, .lengthDelimited⟩

/-- The word that a code is written as: its sign goes through all 64 bits. -/
def codeWord (code : Int32) : UInt64 :=
  code.toInt64.toUInt64

/-- The code that a word is read as: its low 32 bits. -/
def codeOfWord (word : UInt64) : Int32 :=
  word.toUInt32.toInt32

/-- A varint field, left out when it is zero. -/
def varintField (tag : Tag) (word : UInt64) : Bytes :=
  if word = 0 then [] else tag.encode ++ Varint.encode word

/-- A block field, left out when it is empty. -/
def blockField (tag : Tag) (bytes : Bytes) : Bytes :=
  if bytes.isEmpty then [] else tag.encode ++ Block.encode bytes

/-- The bytes of a packet, in ascending order of fields. -/
def encode (packet : Packet) : Bytes :=
  varintField commandTag packet.command.toUInt64
    ++ varintField requestIdTag packet.requestId
    ++ varintField codeTag (codeWord packet.code)
    ++ blockField messageTag (Text.utf8 packet.message)
    ++ blockField dataTag (packet.data.getD [])

/-- Take up one field. -/
def absorb (tag : Tag) (packet : Packet) : Reader Packet :=
  if tag = commandTag then
    Reader.map (fun word => { packet with command := word.toUInt32 }) Varint.read
  else if tag = requestIdTag then
    Reader.map (fun word => { packet with requestId := word }) Varint.read
  else if tag = codeTag then
    Reader.map (fun word => { packet with code := codeOfWord word }) Varint.read
  else if tag = messageTag then
    Reader.map (fun text => { packet with message := text }) Block.readText
  else if tag = dataTag then
    Reader.map (fun bytes => { packet with data := some bytes }) Block.read
  else
    Reader.map (fun _ => packet) tag.wireType.skip

theorem absorb_shortens (tag : Tag) (packet : Packet) : Reader.Shortens (absorb tag packet) := by
  simp only [absorb]
  split
  · exact Varint.read_shortens.map _
  split
  · exact Varint.read_shortens.map _
  split
  · exact Varint.read_shortens.map _
  split
  · exact Block.readText_shortens.map _
  split
  · exact Block.read_shortens.map _
  · exact (WireType.skip_shortens _).map _

def schema : Schema Packet := ⟨absorb, absorb_shortens⟩

def decode (bytes : Bytes) : Except Fault Packet :=
  schema.read {} bytes

/-- The code of the packet that stands for an unreadable frame. -/
def parseErrorCode : Int32 := -1

/-- The message of the packet that stands for an unreadable frame. -/
def parseErrorMessage : String := "parse error"

/-- The packet that stands for an unreadable frame. -/
def parseError : Packet := { code := parseErrorCode, message := parseErrorMessage }

/-- Whether a packet has the code and message of the one for unreadable frames.  A gateway that
answers with these itself cannot be told apart. -/
def isParseError (packet : Packet) : Bool :=
  packet.code == parseErrorCode && packet.message == parseErrorMessage

/-- Code zero is the only success. -/
def isSuccess (packet : Packet) : Bool :=
  packet.code == 0

def kind (packet : Packet) : Command :=
  Command.ofNumber packet.command

/-- Read a frame, an unreadable one as the fixed packet for it. -/
def receive (frame : Frame) : Packet :=
  match decode frame with
  | .ok packet => packet
  | .error _ => parseError

example : encode {} = [] := by decide

example : encode ⟨1, 2, 3, "m", some [0xAA]⟩ =
    [0x08, 0x01, 0x10, 0x02, 0x18, 0x03, 0x22, 0x01, 0x6D, 0x2A, 0x01, 0xAA] := by
  decide +kernel

end Packet

end GatewayLogin
