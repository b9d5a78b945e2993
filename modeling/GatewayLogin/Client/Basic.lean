/-
Clients: whole logins over links that are dialed.

A client has one session and at most one stream of events.  Each event is handed to the session
before the next is looked at.  A call that still waits when the caller's patience is over is
abandoned: what it held of the stream is gone, the session stays as it is.  A link that opens at
the very moment at which patience is over is still used, but nothing more is waited for: only the
events that are on it already can conclude the login.
-/
import GatewayLogin.Link.Dialing
import GatewayLogin.Session.Basic

namespace GatewayLogin

structure Client where
  session : Session
  /-- The stream of the last link, as far as it is held. -/
  inbox : Option Inbox := none
  /-- Where to log in unless told otherwise. -/
  serverUrl : String
  /-- How many links have been opened. -/
  links : Nat := 0

/-- What a call answers, the client it leaves, and what it wants done. -/
structure Turn (α : Type) where
  /-- The answer; none if the call was abandoned. -/
  reply : Option α
  client : Client
  effects : List Effect
  /-- The URL that was dialed. -/
  dialed : Option String := none
  /-- The milliseconds that the call took. -/
  waited : Nat := 0

namespace Client

def new (settings : ClientSettings) : Client :=
  { session := Session.new settings, serverUrl := settings.serverUrl }

/-- What waiting on a stream came to. -/
structure Waited (α : Type) where
  reply : Option α
  session : Session
  inbox : Option Inbox
  effects : List Effect

/-- Whether a stream with nothing left is over: it ended, or it was tied to the connection and the
session let that go. -/
def isOver (inbox : Inbox) (s : Session) : Bool :=
  inbox.ended || inbox.tied && s.connection.isNone

/-- The answer that a concluding packet gives. -/
def verdict (packet : Packet) : Except Fault Packet :=
  if packet.isSuccess then .ok packet else .error (.rejected packet.code packet.message)

/-- Take the events that come in time until one concludes the login.  The end of the stream is seen
only with time left, and what is not taken stays in front of what comes later. -/
def awaitResponse (hasTime : Bool) (later : Inbox) (s : Session) :
    List LinkEvent → Waited (Except Fault Packet)
  | [] =>
      if hasTime && isOver later s then
        let step := s.transportClosed none
        ⟨some (.error .connectionClosed), step.session, none, step.effects⟩
      else ⟨none, s, none, []⟩
  | .message frame :: rest =>
      let step := s.frameReceived frame
      match step.reply with
      | some packet =>
          ⟨some (verdict packet), step.session, some (later.withFront rest), step.effects⟩
      | none =>
          let waited := awaitResponse hasTime later step.session rest
          { waited with effects := step.effects ++ waited.effects }
  | .errored text :: rest =>
      let step := s.transportErrored text
      ⟨some (.error (.transport text)), step.session, some (later.withFront rest), step.effects⟩
  | .closed reason :: _ =>
      let step := s.transportClosed reason
      ⟨some (.error .connectionClosed), step.session, none, step.effects⟩

/-- Take events until the connection is closed. -/
def awaitClosed (later : Inbox) (s : Session) : List LinkEvent → Waited Unit
  | [] =>
      if isOver later s then
        let step := s.transportClosed none
        ⟨some (), step.session, none,
          .log ⟨.debug, "Event stream ended without a close event", []⟩ :: step.effects⟩
      else ⟨none, s, none, []⟩
  | .message frame :: rest =>
      let step := s.frameReceived frame
      let waited := awaitClosed later step.session rest
      { waited with effects := step.effects ++ waited.effects }
  | .errored text :: rest =>
      let step := s.transportErrored text
      let waited := awaitClosed later step.session rest
      { waited with effects := step.effects ++ waited.effects }
  | .closed reason :: _ =>
      let step := s.transportClosed reason
      ⟨some (), step.session, none, step.effects⟩

/-- The entry for the end of dialing, however it ended. -/
def dialedEntry : LogEntry :=
  ⟨.debug, "Operation completed", [("operation", "connect")]⟩

/-- Sign in over a link that opened, with or without time left to wait for the response. -/
def signIn (c : Client) (attempt : ConnectAttempt) (clock : UInt64) (hasTime : Bool)
    (link : Link) : Turn (Except Fault Packet) :=
  let id := c.links + 1
  let opened := c.session.transportOpened attempt id
  if opened.reply then
    let sent := opened.session.sendSignIn clock link.write
    match sent.reply with
    | .error fault =>
        { reply := some (.error fault)
          client := { c with
            session := sent.session, inbox := some link.untouched, links := id }
          effects := opened.effects ++ sent.effects }
    | .ok frame =>
        let (inTime, later) := link.answering frame hasTime
        let waited := awaitResponse hasTime later sent.session inTime
        { reply := waited.reply
          client := { c with session := waited.session, inbox := waited.inbox, links := id }
          effects := opened.effects ++ sent.effects ++ waited.effects }
  else
    { reply := some (.error (.invalidState SessionState.connecting.name
        opened.session.state.message))
      client := { c with session := opened.session, links := id }
      effects := opened.effects }

/-- Go on once dialing has come to something, with or without time left to wait. -/
def afterDialing (c : Client) (attempt : ConnectAttempt) (clock : UInt64) (hasTime : Bool) :
    DialOutcome → Turn (Except Fault Packet)
  | .opened link => c.signIn attempt clock hasTime link
  | .timedOut | .failed .connectTimeout =>
      let step := c.session.timeoutElapsed attempt
      { reply := some (.error .connectTimeout)
        client := { c with session := step.session }
        effects := step.effects }
  | .failed fault =>
      let step := c.session.connectFailed attempt fault.message
      { reply := some (.error fault)
        client := { c with session := step.session }
        effects := step.effects }
  | .abandoned => { reply := none, client := c, effects := [] }

/-- Log in: dial, send one sign-in request, and wait for its response.  The stream of the last link
is given up first, whatever comes of the login. -/
def login (c : Client) (dialing : Dialing) (clock : UInt64) (patience : Nat)
    (credentials : Credentials) : Turn (Except Fault Packet) :=
  let started := c.session.startLogin credentials
  let c := { c with session := started.session, inbox := none }
  match started.reply with
  | .error fault => { reply := some (.error fault), client := c, effects := started.effects }
  | .ok attempt =>
      let (outcome, waited) := dialing.await attempt.timeout.ticks patience
      let turn := c.afterDialing attempt clock (waited < patience) outcome
      { turn with
        effects := started.effects ++ .log dialedEntry :: turn.effects
        dialed := some credentials.serverUrl
        waited := if turn.reply.isSome then waited else patience }

/-- Handle events until the connection is closed.  Without a stream there is nothing to wait for. -/
def waitClosed (c : Client) (patience : Nat) : Turn Unit :=
  match c.inbox with
  | none => { reply := some (), client := c, effects := [] }
  | some inbox =>
      let waited := awaitClosed { inbox with events := [] } c.session inbox.events
      { reply := waited.reply
        client := { c with session := waited.session, inbox := waited.inbox }
        effects := waited.effects
        waited := if waited.reply.isSome then 0 else patience }

/-- Close the connection and report the counters. -/
def disconnect (c : Client) : Turn Unit :=
  let step := c.session.disconnect
  { reply := some ()
    client := { c with session := step.session, inbox := none }
    effects := step.effects ++ [.log step.session.metrics.logEntry] }

end Client

end GatewayLogin
