/-
States of a session, and why one can have failed.
-/
import GatewayLogin.Text.Quoted

namespace GatewayLogin

inductive FailureReason where
  | connectTimeout
  | connectFailed (error : String)
  | transport (error : String)
  /-- The gateway answered with a nonzero code. -/
  | rejected (code : Int32)
deriving Repr, DecidableEq

def FailureReason.message : FailureReason → String
  | .connectTimeout => "connection timed out"
  | .connectFailed error => "connection failed: " ++ error
  | .transport error => "transport error: " ++ error
  | .rejected code => "login failed: code " ++ toString code.toInt

/-- The description of a reason with all it carries. -/
def FailureReason.describe : FailureReason → String
  | .connectTimeout => "ConnectTimeout"
  | .connectFailed error => "ConnectError(" ++ Text.quoted error ++ ")"
  | .transport error => "Transport(" ++ Text.quoted error ++ ")"
  | .rejected code => "Rejected \x7b code: " ++ toString code.toInt ++ " \x7d"

/-- Where a session stands between connecting and being signed in. -/
inductive SessionState where
  | disconnected
  | connecting
  | connected
  /-- A sign-in request is on its way and no response has come. -/
  | awaitingResponse
  | failed (reason : FailureReason)
deriving Repr, DecidableEq

namespace SessionState

def name : SessionState → String
  | .disconnected => "disconnected"
  | .connecting => "connecting"
  | .connected => "connected"
  | .awaitingResponse => "awaiting_response"
  | .failed _ => "failed"

def message : SessionState → String
  | .failed reason => "failed (" ++ reason.message ++ ")"
  | state => state.name

/-- The description of a state with all it carries. -/
def describe : SessionState → String
  | .disconnected => "Disconnected"
  | .connecting => "Connecting"
  | .connected => "Connected"
  | .awaitingResponse => "AwaitingResponse"
  | .failed reason => "Failed(" ++ reason.describe ++ ")"

/-- Whether a connection is held or on its way. -/
def isActive : SessionState → Bool
  | .connecting | .connected | .awaitingResponse => true
  | .disconnected | .failed _ => false

end SessionState

end GatewayLogin
