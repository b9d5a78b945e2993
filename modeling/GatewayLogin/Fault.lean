/-
Faults of the sign-in client, by cause.

A fault is a value: what went wrong and the numbers or texts that belong to it.  Its wording is in
one function, `Fault.message`, and two predicates sort the causes: `Fault.recoverable` tells
whether signing in again can help, and `Fault.isCodecFault` whether the bytes themselves were
unreadable.
-/

namespace GatewayLogin

/-- What can go wrong between reading settings and a completed login. -/
inductive Fault where
  /-- Input or output failed, with the text of the failure. -/
  | io (text : String)
  /-- A varint that does not end, is too long, or exceeds 64 bits. -/
  | malformedVarint
  /-- A body of `needed` bytes where only `available` are left. -/
  | truncated (needed available : Nat)
  /-- Wire-type bits without a meaning. -/
  | unsupportedWireType (bits : UInt8)
  /-- A tag, or a field number, outside the permitted range. -/
  | invalidTag (raw : UInt64)
  /-- A frame longer than the agreed maximum. -/
  | oversizedFrame (length : Nat)
  /-- The connection could not be opened. -/
  | connectFailed (reason : String)
  /-- The connection did not open in time. -/
  | connectTimeout
  /-- A write without an open connection. -/
  | notOpen
  /-- The connection closed before the response came. -/
  | connectionClosed
  /-- The open connection failed. -/
  | transport (reason : String)
  /-- The gateway answered with a nonzero code. -/
  | rejected (code : Int32) (message : String)
  /-- The caller's login data are incomplete. -/
  | invalidCredentials (problem : String)
  /-- An operation came in a state that does not allow it. -/
  | invalidState (expected actual : String)
  /-- Settings that cannot be read, written or used. -/
  | configuration (problem : String)
deriving Repr, DecidableEq, Inhabited

def Fault.message : Fault → String
  | .io text => "I/O error: " ++ text
  | .malformedVarint => "Malformed varint"
  | .truncated needed available =>
      "Truncated buffer: needed " ++ toString needed ++ " bytes, " ++ toString available
        ++ " available"
  | .unsupportedWireType bits => "Unsupported wire type: " ++ toString bits.toNat
  | .invalidTag raw => "Invalid field tag: " ++ toString raw.toNat
  | .oversizedFrame length => "Frame too large: " ++ toString length ++ " bytes"
  | .connectFailed reason => "Connect error: " ++ reason
  | .connectTimeout => "Connect timed out"
  | .notOpen => "Connection is not open"
  | .connectionClosed => "Connection closed"
  | .transport reason => "Transport error: " ++ reason
  | .rejected code message =>
      "Login rejected with code " ++ toString code.toInt ++ ": " ++ message
  | .invalidCredentials problem => "Invalid credentials: " ++ problem
  | .invalidState expected actual =>
      "Invalid session state: expected " ++ expected ++ ", was " ++ actual
  | .configuration problem => "Configuration error: " ++ problem

/-- Whether logging in again can succeed without anybody changing the settings. -/
def Fault.recoverable : Fault → Bool
  | .configuration _ => false
  | _ => true

/-- Whether the bytes of a message were at fault. -/
def Fault.isCodecFault : Fault → Bool
  | .malformedVarint | .truncated .. | .unsupportedWireType _ | .invalidTag _ => true
  | _ => false

end GatewayLogin
