/-
Sign-in requests: what the client presents to the gateway.

| field | holds     | layout |
|-------|-----------|--------|
| 1     | device id | varint |
| 2     | user id   | varint |
| 3     | token     | block  |

All three fields are always written.
-/
import GatewayLogin.Wire.Schema

namespace GatewayLogin

structure SignInRequest where
  deviceId : UInt64 := 0
  userId : UInt64 := 0
  token : String := ""
deriving Repr, DecidableEq, Inhabited

namespace SignInRequest

def deviceIdTag : Tag := ⟨1, .varint⟩

def userIdTag : Tag := ⟨2, .varint⟩

def tokenTag : Tag := ⟨3, .lengthDelimited⟩

/-- The bytes of a request, in ascending order of fields. -/
def encode (request : SignInRequest) : Bytes :=
  deviceIdTag.encode ++ Varint.encode request.deviceId
    ++ userIdTag.encode ++ Varint.encode request.userId
    ++ tokenTag.encode ++ Block.encode (Text.utf8 request.token)

/-- Take up one field. -/
def absorb (tag : Tag) (request : SignInRequest) : Reader SignInRequest :=
  if tag = deviceIdTag then
    Reader.map (fun word => { request with deviceId := word }) Varint.read
  else if tag = userIdTag then
    Reader.map (fun word => { request with userId := word }) Varint.read
  else if tag = tokenTag then
    Reader.map (fun text => { request with token := text }) Block.readText
  else
    Reader.map (fun _ => request) tag.wireType.skip

theorem absorb_shortens (tag : Tag) (request : SignInRequest) :
    Reader.Shortens (absorb tag request) := by
  simp only [absorb]
  split
  · exact Varint.read_shortens.map _
  split
  · exact Varint.read_shortens.map _
  split
  · exact Block.readText_shortens.map _
  · exact (WireType.skip_shortens _).map _

def schema : Schema SignInRequest := ⟨absorb, absorb_shortens⟩

def decode (bytes : Bytes) : Except Fault SignInRequest :=
  schema.read {} bytes

example : encode ⟨55, 1001, "abc"⟩ =
    [0x08, 0x37, 0x10, 0xE9, 0x07, 0x1A, 0x03, 0x61, 0x62, 0x63] := by decide +kernel

end SignInRequest

end GatewayLogin
