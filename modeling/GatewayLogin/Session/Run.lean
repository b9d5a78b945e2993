/-
Runs of a session: sequences of operations and what they answer and want done.
-/
import GatewayLogin.Session.Basic

namespace GatewayLogin

/-- One operation on a session, with all that comes from outside. -/
inductive Operation where
  | startLogin (credentials : Credentials)
  | transportOpened (attempt : ConnectAttempt) (connection : ConnectionId)
  | timeoutElapsed (attempt : ConnectAttempt)
  | connectFailed (attempt : ConnectAttempt) (error : String)
  | transportErrored (error : String)
  /-- The clock, and what the connection answers to a frame. -/
  | sendSignIn (clock : UInt64) (write : Frame → Except Fault Unit)
  | frameReceived (frame : Frame)
  | transportClosed (reason : Option String)
  | disconnect

inductive Reply where
  | started (result : Except Fault ConnectAttempt)
  /-- Whether an event was taken up, or changed the state. -/
  | taken (changed : Bool)
  | sent (result : Except Fault Frame)
  | answered (packet : Option Packet)
  | done
deriving Repr

/-- What the user is told among some effects, in order. -/
def Effect.notifications (effects : List Effect) : List Notification :=
  effects.filterMap fun
    | .notify notification => some notification
    | _ => none

/-- The calls on connections among some effects, in order. -/
def Effect.calls (effects : List Effect) : List (ConnectionId × ConnectionCall) :=
  effects.filterMap fun
    | .call connection made => some (connection, made)
    | _ => none

def Step.map {α β : Type} (f : α → β) (step : Step α) : Step β :=
  ⟨f step.reply, step.session, step.effects⟩

namespace Session

def perform (s : Session) : Operation → Step Reply
  | .startLogin credentials => (s.startLogin credentials).map .started
  | .transportOpened attempt connection => (s.transportOpened attempt connection).map .taken
  | .timeoutElapsed attempt => (s.timeoutElapsed attempt).map .taken
  | .connectFailed attempt error => (s.connectFailed attempt error).map .taken
  | .transportErrored error => (s.transportErrored error).map .taken
  | .sendSignIn clock write => (s.sendSignIn clock write).map .sent
  | .frameReceived frame => (s.frameReceived frame).map .answered
  | .transportClosed reason => (s.transportClosed reason).map .taken
  | .disconnect => s.disconnect.map fun _ => .done

def steps (s : Session) : List Operation → List (Step Reply)
  | [] => []
  | operation :: rest => s.perform operation :: (s.perform operation).session.steps rest

def run (s : Session) (operations : List Operation) : Session :=
  operations.foldl (fun s operation => (s.perform operation).session) s

/-- All that several operations want done, in order. -/
def effects (s : Session) (operations : List Operation) : List Effect :=
  (s.steps operations).flatMap Step.effects

end Session

end GatewayLogin
