/-
Connections as a session sees them: what they answer to a frame, and what calls on them leave
behind.

A connection is an outbox in front of a queue, or a recorder that only notes what is done with it.
-/
import GatewayLogin.Outbox
import GatewayLogin.Session.Basic

namespace GatewayLogin

/-- A connection that notes calls.  It may be closed from the start, or refuse every frame. -/
structure Recorder where
  closed : Bool := false
  refusal : Option String := none
deriving Repr, DecidableEq

def Recorder.verdict (recorder : Recorder) : Except Fault Unit :=
  if recorder.closed then .error .notOpen
  else
    match recorder.refusal with
    | some reason => .error (.transport reason)
    | none => .ok ()

inductive Noted where
  | send (frame : Frame)
  | close
deriving Repr, DecidableEq

inductive Connection where
  | outbox (box : Outbox)
  | recorder (recorder : Recorder)
deriving Repr, DecidableEq

/-- What a call leaves behind beside the connection itself. -/
structure Called where
  connection : Connection
  noted : List Noted := []
  logs : List LogEntry := []
deriving Repr, DecidableEq

namespace Connection

def verdict : Connection → Except Fault Unit
  | .outbox box => box.verdict
  | .recorder r => r.verdict

/-- Carry out a call.  A recorder notes the frames it accepts and every close. -/
def apply : Connection → ConnectionCall → Called
  | .outbox box, .send frame => { connection := .outbox (box.send frame).2 }
  | .outbox box, .close => { connection := .outbox box.close, logs := box.closingLog }
  | .outbox box, .drop => { connection := .outbox box.drop, logs := box.closingLog }
  | .recorder r, .send frame =>
      match r.verdict with
      | .ok () => { connection := .recorder r, noted := [.send frame] }
      | .error _ => { connection := .recorder r }
  | .recorder r, .close => { connection := .recorder { r with closed := true }, noted := [.close] }
  | .recorder r, .drop => { connection := .recorder r }

end Connection

/-- Connections in the order of their numbers, the first being number one. -/
abbrev Switchboard := List Connection

namespace Switchboard

def get? (board : Switchboard) (id : ConnectionId) : Option Connection :=
  if id = 0 then none else (board : List Connection)[id - 1]?

/-- What the connection with a number answers to a frame. -/
def verdict (board : Switchboard) (id : ConnectionId) : Except Fault Unit :=
  match get? board id with
  | some connection => connection.verdict
  | none => .error .notOpen

def put (board : Switchboard) (id : ConnectionId) (connection : Connection) : Switchboard :=
  List.set board (id - 1) connection

end Switchboard

/-- What a list of effects comes to: the connections afterwards, and what was noted, told and
logged. -/
structure Settled where
  board : Switchboard
  noted : List (ConnectionId × Noted) := []
  notes : List Notification := []
  logs : List LogEntry := []
deriving Repr, DecidableEq

/-- Carry out one effect.  A sink that only logs turns notifications into entries. -/
def Settled.apply (sink : Sink) (done : Settled) : Effect → Settled
  | .log entry => { done with logs := done.logs ++ [entry] }
  | .notify notification =>
      match sink with
      | .channel => { done with notes := done.notes ++ [notification] }
      | .log => { done with logs := done.logs ++ [notification.logEntry] }
  | .call id call =>
      match Switchboard.get? done.board id with
      | none => done
      | some connection =>
          let called := connection.apply call
          { done with
            board := Switchboard.put done.board id called.connection
            noted := done.noted ++ called.noted.map fun noted => (id, noted)
            logs := done.logs ++ called.logs }

def settle (sink : Sink) (board : Switchboard) (effects : List Effect) : Settled :=
  effects.foldl (Settled.apply sink) { board }

end GatewayLogin
