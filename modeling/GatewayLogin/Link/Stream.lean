/-
Links over byte streams: each frame goes with its length in front.

What the peer sends is cut into frames; the first fault, or bytes that are left when it is done,
makes one error event, and the close follows.  What is queued is written frame by frame up to the
close or the first frame that is too long.
-/
import GatewayLogin.Link.Basic
import GatewayLogin.Link.Route

namespace GatewayLogin.StreamLink

/-- The address that a URL names.  The scheme may be left out. -/
def address (url : String) : String :=
  withoutStart "tcp://" url

def connect (route : Route) : Except Fault Unit :=
  match route with
  | .reachable => .ok ()
  | .failing reason => .error (.connectFailed reason)

/-- The error at the end of a stream of which this much could be cut into frames. -/
def endingError (drained : Framing.Drained) : List LinkEvent :=
  match drained.ending with
  | .fault fault => [.errored fault.message]
  | .more =>
      if drained.left.isEmpty then [] else [.errored (Fault.io Framing.leftOver).message]
  | .overflow => []

/-- The events of all that a peer sends before it closes. -/
def inbound (framing : Framing) (chunks : List Bytes) : List LinkEvent :=
  let drained := framing.feedAll chunks
  drained.frames.map .message ++ endingError drained ++ [.closed none]

/-- The bytes that are written for queued commands, and the error of the one that cannot be.  What
an encoder leaves of that one would be written too. -/
def outbound (framing : Framing) : List Outbound → Bytes × List LinkEvent
  | [] => ([], [])
  | .close :: _ => ([], [])
  | .frame frame :: rest =>
      match framing.encode frame [] with
      | (.error fault, bytes) => (bytes, [.errored fault.message])
      | (.ok (), bytes) =>
          let later := outbound framing rest
          (bytes ++ later.1, later.2)

structure Exchange where
  sends : List (Except Fault Unit)
  written : Bytes
  events : List LinkEvent
deriving Repr

/-- Send frames at once, close, and read what the peer then sends until it closes. -/
def exchange (settings : TransportSettings) (route : Route) (frames : List Frame)
    (chunks : List Bytes) : Except Fault Exchange := do
  connect route
  let framing : Framing := ⟨settings.maxFrameSize⟩
  let (sends, box) := (Outbox.new settings.outboundQueue.toNat).sendAll frames
  let (written, errors) := outbound framing box.close.queue
  return { sends, written, events := errors ++ inbound framing chunks }

end GatewayLogin.StreamLink
