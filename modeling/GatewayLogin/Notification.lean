/-
Notifications: what the user of the client is told.

The link came up or went away, with a reason that is never empty, or a login was concluded with
the code of the gateway's answer.
-/
import GatewayLogin.LogEntry

namespace GatewayLogin

inductive Notification where
  | status (connected : Bool) (message : String)
  | login (success : Bool) (code : Int32) (message : String)
deriving Repr, DecidableEq

/-- The entry of a notification where nobody listens but the log. -/
def Notification.logEntry : Notification → LogEntry
  | .status true message => ⟨.info, "Connected", [("message", message)]⟩
  | .status false message => ⟨.warn, "Not connected", [("message", message)]⟩
  | .login true code message =>
      ⟨.info, "Login succeeded", [("code", toString code.toInt), ("message", message)]⟩
  | .login false code message =>
      ⟨.warn, "Login failed", [("code", toString code.toInt), ("message", message)]⟩

inductive Sink where
  /-- They are handed on one by one. -/
  | channel
  /-- They are only logged. -/
  | log
deriving Repr, DecidableEq

end GatewayLogin
