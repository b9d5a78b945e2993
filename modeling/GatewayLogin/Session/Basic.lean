/-
Sessions: one sign-in at a time over at most one connection.

A session does nothing by itself.  Each operation takes what happened outside, changes the session,
and lists in order what is to be done about it: calls on the connection, notifications and log
entries.  The connection is known by a number, and what a write to it answers is part of the input.

    disconnected     -- startLogin -->       connecting
    connecting       -- transportOpened -->  connected
    connecting       -- timeoutElapsed, connectFailed -->  failed
    connected        -- sendSignIn -->       awaitingResponse
    awaitingResponse -- frameReceived -->    connected or failed
    any              -- transportClosed, disconnect -->    disconnected

An attempt to connect is known by the handle that `startLogin` answers; whatever comes with another
handle, or too late, is ignored.
-/
import GatewayLogin.Credentials
import GatewayLogin.Duration
import GatewayLogin.Framing
import GatewayLogin.Metrics
import GatewayLogin.Notification
import GatewayLogin.Packet
import GatewayLogin.Session.State
import GatewayLogin.Settings.Basic
import GatewayLogin.SignInRequest

namespace GatewayLogin

/-- The handle of an attempt to connect, with the time it may take. -/
structure ConnectAttempt where
  id : UInt64
  timeout : Duration
deriving Repr, DecidableEq, Inhabited

/-- Who is signed in. -/
structure Identity where
  userId : UInt64
  deviceId : UInt64
deriving Repr, DecidableEq, Inhabited

abbrev ConnectionId := Nat

inductive ConnectionCall where
  | send (frame : Frame)
  | close
  /-- The connection is let go without being closed first. -/
  | drop
deriving Repr, DecidableEq

/-- What a session wants done. -/
inductive Effect where
  | call (connection : ConnectionId) (call : ConnectionCall)
  | notify (notification : Notification)
  | log (entry : LogEntry)
deriving Repr, DecidableEq

structure Session where
  settings : ClientSettings
  state : SessionState := .disconnected
  connection : Option ConnectionId := none
  /-- The attempt that is waited for. -/
  timer : Option ConnectAttempt := none
  /-- How many attempts were begun. -/
  attempts : UInt64 := 0
  /-- The credentials that are still to be sent. -/
  pending : Option Credentials := none
  /-- Who asked to be signed in. -/
  inFlight : Option Identity := none
  identity : Option Identity := none
  /-- The request id of the last envelope that was sent. -/
  requestId : Option UInt64 := none
  metrics : Metrics := {}
deriving Repr, DecidableEq

/-- What an operation answers, the session it leaves, and what it wants done, in order. -/
structure Step (α : Type) where
  reply : α
  session : Session
  effects : List Effect
deriving Repr

namespace Session

def new (settings : ClientSettings) : Session := { settings }

/-- Close the connection that is held. -/
def closing (s : Session) : List Effect :=
  s.connection.toList.map fun connection => .call connection .close

/-- Let the connection that is held go. -/
def dropping (s : Session) : List Effect :=
  s.connection.toList.map fun connection => .call connection .drop

/-- Whether an attempt is the one waited for. -/
def isCurrent (s : Session) (attempt : ConnectAttempt) : Bool :=
  s.state == .connecting && s.timer == some attempt

/-- A message, or another for an empty one. -/
def nonEmptyOr (fallback message : String) : String :=
  if message.isEmpty then fallback else message

def textField (name value : String) : String × String := (name, value)

def numberField (name : String) (value : Nat) : String × String := (name, toString value)

/-- The session without connection, attempt and exchange. -/
def cleared (s : Session) : Session :=
  { s with connection := none, timer := none, pending := none, inFlight := none }

/-- Fail: close the connection, forget the attempt, and tell. -/
def failing (s : Session) (reason : FailureReason) : Session × List Effect :=
  ({ s.cleared with state := .failed reason },
    s.closing ++ [
      .log ⟨.warn, "Session failed", [textField "reason" reason.message]⟩,
      .notify (.status false reason.message)])

/-- Begin a login.  Incomplete credentials are refused and change nothing; complete ones end
whatever went on before. -/
def startLogin (s : Session) (credentials : Credentials) :
    Step (Except Fault ConnectAttempt) :=
  match credentials.validate with
  | .error fault =>
      ⟨.error fault, s, [
        .log ⟨.warn, "Rejecting login request", [textField "error" fault.message]⟩,
        .notify (.status false "incomplete login information")]⟩
  | .ok () =>
      let attempt : ConnectAttempt := ⟨s.attempts + 1, s.settings.connectTimeout⟩
      let session := { s with
        state := .connecting
        connection := none
        timer := some attempt
        attempts := attempt.id
        pending := some credentials
        inFlight := none
        identity := none
        requestId := none
        metrics := s.metrics.connectAttempt }
      ⟨.ok attempt, session, s.closing ++ [
        .log ⟨.info, "Connecting", [
          numberField "attempt" attempt.id.toNat,
          textField "url" credentials.serverUrl,
          numberField "user_id" credentials.userId.toNat,
          numberField "device_id" credentials.deviceId.toNat,
          numberField "timeout_ms" (attempt.timeout.milliseconds % UInt64.size)]⟩]⟩

/-- A connection opened.  One that is not waited for is closed again. -/
def transportOpened (s : Session) (attempt : ConnectAttempt) (connection : ConnectionId) :
    Step Bool :=
  if s.isCurrent attempt then
    ⟨true, { s with state := .connected, connection := some connection, timer := none },
      s.dropping ++ [
        .log ⟨.info, "Transport connected", [numberField "attempt" attempt.id.toNat]⟩,
        .notify (.status true "connection established")]⟩
  else
    ⟨false, s, [
      .log ⟨.warn, "Ignoring late transport open",
        [numberField "attempt" attempt.id.toNat, textField "state" s.state.message]⟩,
      .call connection .close]⟩

def timeoutElapsed (s : Session) (attempt : ConnectAttempt) : Step Bool :=
  if s.isCurrent attempt then
    let (session, effects) :=
      { s with metrics := s.metrics.connectTimedOut }.failing .connectTimeout
    ⟨true, session, effects⟩
  else
    ⟨false, s, [.log ⟨.debug, "Ignoring stale connect timeout",
      [numberField "attempt" attempt.id.toNat]⟩]⟩

def connectFailed (s : Session) (attempt : ConnectAttempt) (error : String) : Step Bool :=
  if s.isCurrent attempt then
    let (session, effects) :=
      { s with metrics := s.metrics.connectFailed }.failing (.connectFailed error)
    ⟨true, session, effects⟩
  else
    ⟨false, s, [.log ⟨.debug, "Ignoring stale connect failure",
      [numberField "attempt" attempt.id.toNat, textField "error" error]⟩]⟩

def transportErrored (s : Session) (error : String) : Step Bool :=
  match s.state with
  | .connecting =>
      let (session, effects) :=
        { s with metrics := s.metrics.connectFailed }.failing (.connectFailed error)
      ⟨true, session, effects⟩
  | .connected | .awaitingResponse =>
      let (session, effects) := s.failing (.transport error)
      ⟨true, session, effects⟩
  | .disconnected | .failed _ =>
      ⟨false, s, [.log ⟨.debug, "Ignoring transport error",
        [textField "error" error, textField "state" s.state.message]⟩]⟩

/-- The frame that presents credentials, and the request id it carries.  The clock gives the request
id of an envelope. -/
def signInFrame (settings : ClientSettings) (credentials : Credentials) (clock : UInt64) :
    Frame × Option UInt64 :=
  let request : SignInRequest :=
    ⟨credentials.deviceId, credentials.userId, credentials.token⟩
  if settings.wrapInEnvelope then
    (Packet.encode ⟨settings.signInCommand, clock, 0, "", some request.encode⟩, some clock)
  else (request.encode, none)

/-- The entry for a sign-in request that was sent. -/
def sentEntry (credentials : Credentials) (frame : Frame) (requestId : Option UInt64) : LogEntry :=
  ⟨.debug, "Sign-in request sent",
    [numberField "user_id" credentials.userId.toNat,
      numberField "device_id" credentials.deviceId.toNat]
      ++ requestId.toList.map (fun id => numberField "request_id" id.toNat)
      ++ [numberField "len" frame.length, textField "hex" frame.hex]⟩

/-- Send the pending credentials.  `write` says what the connection answers to a frame; a refused
write fails the session.  The reply is the frame. -/
def sendSignIn (s : Session) (clock : UInt64) (write : Frame → Except Fault Unit) :
    Step (Except Fault Frame) :=
  if s.state ≠ .connected then ⟨.error .notOpen, s, []⟩
  else
    match s.pending with
    | none => ⟨.error (.invalidState "pending login attempt" s.state.message), s, []⟩
    | some credentials =>
        match s.connection with
        | none => ⟨.error .notOpen, { s with pending := none }, []⟩
        | some connection =>
            let (frame, requestId) := signInFrame s.settings credentials clock
            match write frame with
            | .error fault =>
                let (session, effects) :=
                  { s with pending := none }.failing (.transport fault.message)
                ⟨.error fault, session,
                  .call connection (.send frame)
                    :: .log ⟨.warn, "Failed to write sign-in request",
                      [textField "error" fault.message]⟩
                    :: effects⟩
            | .ok () =>
                ⟨.ok frame,
                  { s with
                    state := .awaitingResponse
                    pending := none
                    inFlight := some ⟨credentials.userId, credentials.deviceId⟩
                    requestId
                    metrics := s.metrics.frameSent frame.length.toUInt64 },
                  [.call connection (.send frame), .log (sentEntry credentials frame requestId)]⟩

/-- The entry for a frame that could not be read, if it could not. -/
def unreadableEntries (frame : Frame) : List Effect :=
  match Packet.decode frame with
  | .ok _ => []
  | .error fault =>
      [.log ⟨.debug, "Response frame could not be decoded",
        [textField "error" fault.message, numberField "len" frame.length]⟩]

/-- A frame came in.  The reply is its packet if it concluded a login. -/
def frameReceived (s : Session) (frame : Frame) : Step (Option Packet) :=
  let received := .log ⟨.debug, "Frame received",
    [numberField "len" frame.length, textField "hex" frame.hex]⟩
  let metrics := s.metrics.frameReceived frame.length.toUInt64
  if s.state ≠ .awaitingResponse then
    ⟨none, { s with metrics }, [
      received,
      .log ⟨.warn, "Ignoring unsolicited frame",
        [textField "state" s.state.message, numberField "len" frame.length]⟩]⟩
  else
    let packet := Packet.receive frame
    let metrics := if packet.isParseError then metrics.decodeFault else metrics
    if packet.isSuccess then
      ⟨some packet,
        { s with
          state := .connected
          inFlight := none
          identity := s.inFlight
          metrics := metrics.loginAccepted },
        received :: unreadableEntries frame ++ [
          .log ⟨.info, "Login accepted", [numberField "request_id" packet.requestId.toNat]⟩,
          .notify (.login true 0 (nonEmptyOr "login succeeded" packet.message))]⟩
    else
      ⟨some packet,
        { s with
          state := .failed (.rejected packet.code)
          connection := none
          inFlight := none
          metrics := metrics.loginRejected },
        received :: unreadableEntries frame ++ s.closing ++ [
          .log ⟨.warn, "Login rejected",
            [textField "code" (toString packet.code.toInt), textField "message" packet.message]⟩,
          .notify (.login false packet.code (nonEmptyOr "login failed" packet.message))]⟩

/-- The connection closed.  The reply tells whether the state changed. -/
def transportClosed (s : Session) (reason : Option String) : Step Bool :=
  let told : List Effect :=
    if s.state.isActive then [
      .log ⟨.info, "Transport closed",
        reason.toList.map (textField "reason") ++ [textField "previous" s.state.message]⟩,
      .notify (.status false (nonEmptyOr "connection closed" (reason.getD "")))]
    else []
  ⟨s.state != .disconnected, { s.cleared with state := .disconnected, identity := none },
    s.dropping ++ told⟩

def disconnect (s : Session) : Step Unit :=
  ⟨(), { s.cleared with state := .disconnected, identity := none }, s.closing ++ [
    .log ⟨.info, "Disconnected by caller", []⟩,
    .notify (.status false "disconnected")]⟩

end Session

end GatewayLogin
