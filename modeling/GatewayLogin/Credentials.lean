/-
Credentials: what a caller hands in to log in.

Blanks around the URL and the token are dropped.  Credentials are complete when nothing is empty or
zero; of several gaps the first in the order URL, user, device, token is reported.  A description
never shows the token.
-/
import GatewayLogin.Fault
import GatewayLogin.Text.Blank
import GatewayLogin.Text.Quoted

namespace GatewayLogin

structure Credentials where
  serverUrl : String
  userId : UInt64
  deviceId : UInt64
  token : String
deriving Repr, DecidableEq, Inhabited

namespace Credentials

/-- Credentials from raw input. -/
def new (serverUrl : String) (userId deviceId : UInt64) (token : String) : Credentials :=
  ⟨Text.trim serverUrl, userId, deviceId, Text.trim token⟩

def missing? (c : Credentials) : Option String :=
  if c.serverUrl.isEmpty then some "server url"
  else if c.userId = 0 then some "user id"
  else if c.deviceId = 0 then some "device id"
  else if c.token.isEmpty then some "token"
  else none

def validate (c : Credentials) : Except Fault Unit :=
  match c.missing? with
  | some thing => .error (.invalidCredentials ("missing " ++ thing))
  | none => .ok ()

/-- What stands in a description instead of the token. -/
def redacted : String := "<redacted>"

/-- The description of credentials, without the token. -/
def describe (c : Credentials) : String :=
  "Credentials \x7b server_url: " ++ Text.quoted c.serverUrl
    ++ ", user_id: " ++ toString c.userId.toNat
    ++ ", device_id: " ++ toString c.deviceId.toNat
    ++ ", token: " ++ Text.quoted redacted ++ " \x7d"

end Credentials

end GatewayLogin
