/-
Outboxes: the sending half of a connection, in front of a bounded queue that a writer empties.

Sending and closing never wait.  A frame is queued if the outbox is open, the writer is there and
the queue has room; closing queues a last command on the same terms and shuts the outbox either way.
Letting an outbox go closes it.
-/
import GatewayLogin.Framing
import GatewayLogin.LogEntry

namespace GatewayLogin

inductive Outbound where
  | frame (frame : Frame)
  | close
deriving Repr, DecidableEq

namespace Outbox

/-- What became of the sending half. -/
inductive Sender where
  | opened
  | closed
  /-- It was let go. -/
  | dropped
deriving Repr, DecidableEq

end Outbox

/-- An outbox together with its queue. -/
structure Outbox where
  capacity : Nat
  queue : List Outbound := []
  sender : Outbox.Sender := .opened
  /-- Whether the writer is still there. -/
  writer : Bool := true
deriving Repr, DecidableEq

namespace Outbox

/-- A fresh outbox.  Its queue has room for at least one command. -/
def new (capacity : Nat) : Outbox := ⟨max capacity 1, [], .opened, true⟩

/-- The reason of a write that finds no room. -/
def queueFull : String := "outbound queue full"

/-- The reason of a write that finds no writer. -/
def writerGone : String := "Transport writer task has stopped"

/-- What happens to a frame that is sent now. -/
def verdict (box : Outbox) : Except Fault Unit :=
  if box.sender ≠ .opened then .error .notOpen
  else if !box.writer then .error (.transport writerGone)
  else if box.capacity ≤ box.queue.length then .error (.transport queueFull)
  else .ok ()

def send (box : Outbox) (frame : Frame) : Except Fault Unit × Outbox :=
  match box.verdict with
  | .ok () => (.ok (), { box with queue := box.queue ++ [.frame frame] })
  | .error fault => (.error fault, box)

/-- Shut an open outbox, telling the writer if it can be told. -/
def shut (box : Outbox) (sender : Sender) : Outbox :=
  match box.verdict with
  | .ok () => { box with queue := box.queue ++ [.close], sender }
  | .error _ => { box with sender }

/-- Close an outbox.  Closing it again changes nothing. -/
def close (box : Outbox) : Outbox :=
  if box.sender = .opened then box.shut .closed else box

def drop (box : Outbox) : Outbox :=
  box.shut .dropped

/-- What is logged when an outbox is closed or let go: something only if it was open. -/
def closingLog (box : Outbox) : List LogEntry :=
  if box.sender = .opened then [⟨.debug, "Closing queued connection", []⟩] else []

/-- Whether frames may be sent; none once the outbox is gone. -/
def isOpen? (box : Outbox) : Option Bool :=
  match box.sender with
  | .opened => some box.writer
  | .closed => some false
  | .dropped => none

/-- The writer goes, and with it what is queued. -/
def dropWriter (box : Outbox) : Outbox :=
  { box with queue := [], writer := false }

inductive Received where
  | command (command : Outbound)
  /-- Nothing is queued yet. -/
  | empty
  /-- Nothing is queued, and nothing will be. -/
  | disconnected
  /-- There is no writer. -/
  | noWriter
deriving Repr, DecidableEq

def receive (box : Outbox) : Received × Outbox :=
  if !box.writer then (.noWriter, box)
  else
    match box.queue with
    | command :: queue => (.command command, { box with queue })
    | [] => (if box.sender = .opened then .empty else .disconnected, box)

/-- One thing that can be done at either end. -/
inductive Operation where
  | send (frame : Frame)
  | close
  | drop
  | receive
  | dropWriter
deriving Repr, DecidableEq

inductive Answer where
  | sent (result : Except Fault Unit)
  | received (found : Received)
  | done
deriving Repr

def perform (box : Outbox) : Operation → Answer × Outbox
  | .send frame => (.sent (box.send frame).1, (box.send frame).2)
  | .close => (.done, box.close)
  | .drop => (.done, box.drop)
  | .receive => (.received box.receive.1, box.receive.2)
  | .dropWriter => (.done, box.dropWriter)

/-- The answers of several operations, each with the outbox it leaves. -/
def run (box : Outbox) : List Operation → List (Answer × Outbox)
  | [] => []
  | operation :: rest =>
      box.perform operation :: (box.perform operation).2.run rest

example : (run (new 0) [.send [1], .send [2], .receive]).map (fun r => r.2.queue) =
    [[.frame [1]], [.frame [1]], []] := by decide

end Outbox

end GatewayLogin
