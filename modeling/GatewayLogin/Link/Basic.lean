/-
Links: an open connection and the stream of what happens on it.

A link is known by how it behaves: what it answers to a write, which events wait on it from the
start, which a written frame brings, and whether the stream ends after these, by itself or once the
connection is let go.
-/
import GatewayLogin.Framing

namespace GatewayLogin

/-- Something that happened on an open connection. -/
inductive LinkEvent where
  /-- A complete frame came in. -/
  | message (frame : Frame)
  /-- The transport failed. -/
  | errored (text : String)
  /-- The connection closed. -/
  | closed (reason : Option String)
deriving Repr, DecidableEq

/-- What is left of a stream of events, and whether it ends after that. -/
structure Inbox where
  events : List LinkEvent
  ended : Bool
  /-- Whether it also ends once the connection is let go. -/
  tied : Bool
deriving Repr, DecidableEq

/-- The stream on which some events come before the others. -/
def Inbox.withFront (inbox : Inbox) (front : List LinkEvent) : Inbox :=
  { inbox with events := front ++ inbox.events }

/-- How an open link behaves. -/
structure Link where
  /-- What a write answers. -/
  write : Frame → Except Fault Unit
  /-- What has happened before anything is written. -/
  early : List LinkEvent := []
  /-- What a written frame brings. -/
  replies : Frame → List LinkEvent := fun _ => []
  /-- Whether the stream ends by itself. -/
  ends : Bool := false
  /-- Whether the stream also ends once the connection is let go.  It does not where a reader goes
  on until its peer closes. -/
  tied : Bool := false

/-- The stream of a link to which nothing was written. -/
def Link.untouched (link : Link) : Inbox := ⟨link.early, link.ends, link.tied⟩

/-- The events that come in time on a link to which a frame was written, and the stream after them.
What the frame brings takes time, what was there before does not. -/
def Link.answering (link : Link) (frame : Frame) (hasTime : Bool) : List LinkEvent × Inbox :=
  if hasTime then (link.early ++ link.replies frame, ⟨[], link.ends, link.tied⟩)
  else (link.early, ⟨link.replies frame, link.ends, link.tied⟩)

end GatewayLogin
