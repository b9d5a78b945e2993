/-
The description of a session: what it shows of itself, which is neither its credentials nor its
counters.
-/
import GatewayLogin.Session.Basic

namespace GatewayLogin

def describeOption {α : Type} (describe : α → String) : Option α → String
  | none => "None"
  | some value => "Some(" ++ describe value ++ ")"

def describeBool (value : Bool) : String :=
  if value then "true" else "false"

/-- The description of a record: its name, and each field with its value. -/
def describeRecord (name : String) (fields : List (String × String)) : String :=
  name ++ " \x7b "
    ++ String.intercalate ", " (fields.map fun field => field.1 ++ ": " ++ field.2) ++ " \x7d"

def ConnectAttempt.describe (attempt : ConnectAttempt) : String :=
  describeRecord "ConnectAttempt"
    [("id", toString attempt.id.toNat), ("timeout", attempt.timeout.describe)]

def Identity.describe (identity : Identity) : String :=
  describeRecord "SessionIdentity"
    [("user_id", toString identity.userId.toNat), ("device_id", toString identity.deviceId.toNat)]

def Session.describe (s : Session) : String :=
  describeRecord "ConnectionSession" [
    ("state", s.state.describe),
    ("has_connection", describeBool s.connection.isSome),
    ("timer", describeOption ConnectAttempt.describe s.timer),
    ("identity", describeOption Identity.describe s.identity),
    ("request_id", describeOption (fun id : UInt64 => toString id.toNat) s.requestId)]

end GatewayLogin
