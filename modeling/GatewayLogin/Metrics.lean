/-
Counters of connection and login activity.  Each is a 64-bit word and starts anew after its last
value.
-/
import GatewayLogin.LogEntry

namespace GatewayLogin

structure Metrics where
  connectAttempts : UInt64 := 0
  connectFailures : UInt64 := 0
  connectTimeouts : UInt64 := 0
  framesSent : UInt64 := 0
  framesReceived : UInt64 := 0
  bytesSent : UInt64 := 0
  bytesReceived : UInt64 := 0
  loginsAccepted : UInt64 := 0
  loginsRejected : UInt64 := 0
  decodeFaults : UInt64 := 0
deriving Repr, DecidableEq, Inhabited

namespace Metrics

def connectAttempt (m : Metrics) : Metrics :=
  { m with connectAttempts := m.connectAttempts + 1 }

def connectFailed (m : Metrics) : Metrics :=
  { m with connectFailures := m.connectFailures + 1 }

def connectTimedOut (m : Metrics) : Metrics :=
  { m with connectTimeouts := m.connectTimeouts + 1 }

def frameSent (m : Metrics) (bytes : UInt64) : Metrics :=
  { m with framesSent := m.framesSent + 1, bytesSent := m.bytesSent + bytes }

def frameReceived (m : Metrics) (bytes : UInt64) : Metrics :=
  { m with framesReceived := m.framesReceived + 1, bytesReceived := m.bytesReceived + bytes }

def loginAccepted (m : Metrics) : Metrics :=
  { m with loginsAccepted := m.loginsAccepted + 1 }

def loginRejected (m : Metrics) : Metrics :=
  { m with loginsRejected := m.loginsRejected + 1 }

def decodeFault (m : Metrics) : Metrics :=
  { m with decodeFaults := m.decodeFaults + 1 }

def counters (m : Metrics) : List (String × UInt64) := [
  ("connect_attempts", m.connectAttempts),
  ("connect_failures", m.connectFailures),
  ("connect_timeouts", m.connectTimeouts),
  ("frames_sent", m.framesSent),
  ("frames_received", m.framesReceived),
  ("bytes_sent", m.bytesSent),
  ("bytes_received", m.bytesReceived),
  ("logins_accepted", m.loginsAccepted),
  ("logins_rejected", m.loginsRejected),
  ("decode_faults", m.decodeFaults)]

def logEntry (m : Metrics) : LogEntry :=
  ⟨.info, "Sign-in metrics snapshot", m.counters.map fun c => (c.1, toString c.2.toNat)⟩

inductive Event where
  | connectAttempt
  | connectFailed
  | connectTimedOut
  | frameSent (bytes : UInt64)
  | frameReceived (bytes : UInt64)
  | loginAccepted
  | loginRejected
  | decodeFault
deriving Repr, DecidableEq

def count (m : Metrics) : Event → Metrics
  | .connectAttempt => m.connectAttempt
  | .connectFailed => m.connectFailed
  | .connectTimedOut => m.connectTimedOut
  | .frameSent bytes => m.frameSent bytes
  | .frameReceived bytes => m.frameReceived bytes
  | .loginAccepted => m.loginAccepted
  | .loginRejected => m.loginRejected
  | .decodeFault => m.decodeFault

/-- The counters after each of several events. -/
def snapshots (m : Metrics) : List Event → List Metrics
  | [] => []
  | event :: rest => m.count event :: (m.count event).snapshots rest

end Metrics

end GatewayLogin
