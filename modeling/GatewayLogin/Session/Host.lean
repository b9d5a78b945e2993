/-
Hosts: a session together with the connections it was given.

Connections are numbered from one in the order in which they are handed over, whether or not the
session takes them.
-/
import GatewayLogin.Connection
import GatewayLogin.Session.Run

namespace GatewayLogin

/-- A session, who is told, and all connections so far. -/
structure Host where
  session : Session
  sink : Sink := .channel
  board : Switchboard := []

inductive Request where
  | startLogin (credentials : Credentials)
  /-- A new connection opened for an attempt. -/
  | opened (attempt : ConnectAttempt) (connection : Connection)
  | timeoutElapsed (attempt : ConnectAttempt)
  | connectFailed (attempt : ConnectAttempt) (error : String)
  | transportErrored (error : String)
  | sendSignIn (clock : UInt64)
  | frameReceived (frame : Frame)
  | transportClosed (reason : Option String)
  | disconnect

namespace Host

/-- A host of a session that has not begun. -/
def new (settings : ClientSettings) (sink : Sink) : Host :=
  { session := Session.new settings, sink }

/-- What the connection that the session holds answers to a frame. -/
def verdict (host : Host) : Except Fault Unit :=
  match host.session.connection with
  | some id => Switchboard.verdict host.board id
  | none => .error .notOpen

def operation (host : Host) : Request → Operation
  | .startLogin credentials => .startLogin credentials
  | .opened attempt _ => .transportOpened attempt (host.board.length + 1)
  | .timeoutElapsed attempt => .timeoutElapsed attempt
  | .connectFailed attempt error => .connectFailed attempt error
  | .transportErrored error => .transportErrored error
  | .sendSignIn clock => .sendSignIn clock fun _ => host.verdict
  | .frameReceived frame => .frameReceived frame
  | .transportClosed reason => .transportClosed reason
  | .disconnect => .disconnect

/-- The connections once a request has brought its own. -/
def boardFor (host : Host) : Request → Switchboard
  | .opened _ connection => host.board ++ [connection]
  | _ => host.board

/-- Do what is asked: the answer, what it came to, and the host afterwards. -/
def serve (host : Host) (request : Request) : Reply × Settled × Host :=
  let step := host.session.perform (host.operation request)
  let settled := settle host.sink (host.boardFor request) step.effects
  (step.reply, settled, { host with session := step.session, board := settled.board })

/-- Look for the next command in the queue of a connection. -/
def receive (host : Host) (id : ConnectionId) : Outbox.Received × Host :=
  match Switchboard.get? host.board id with
  | some (.outbox box) =>
      (box.receive.1, { host with board := Switchboard.put host.board id (.outbox box.receive.2) })
  | _ => (.noWriter, host)

end Host

end GatewayLogin
