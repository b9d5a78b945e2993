/-
Links over WebSockets: each binary message is a frame.

Texts, pings and pongs bring no event.  A message beyond the maximum, or a socket that is lost, is
an error, and the close follows.
-/
import GatewayLogin.Link.Basic
import GatewayLogin.Link.Route
import GatewayLogin.Text.Utf8

namespace GatewayLogin.WebSocketLink

/-- What a peer does on a WebSocket. -/
inductive Message where
  | binary (bytes : Bytes)
  | text (text : String)
  | ping (bytes : Bytes)
  | pong (bytes : Bytes)
  /-- A closing handshake, perhaps with a reason. -/
  | close (reason : Option String)
  /-- The socket is gone without one. -/
  | lost
deriving Repr, DecidableEq

/-- The bytes that a message carries.  A reason stands after a code of two bytes. -/
def Message.size : Message → Nat
  | .binary bytes | .ping bytes | .pong bytes => bytes.length
  | .text t => t.utf8ByteSize
  | .close none => 0
  | .close (some reason) => reason.utf8ByteSize + 2
  | .lost => 0

def schemes : List String := ["ws://", "wss://"]

def connect (route : Route) (url : String) : Except Fault Unit :=
  if schemes.any fun scheme => beginsWith scheme url then
    match route with
    | .reachable => .ok ()
    | .failing reason => .error (.connectFailed ("IO error: " ++ reason))
  else .error (.connectFailed ("Unsupported URL scheme: " ++ url))

/-- The events of all that a peer does.  One that does not close by itself does so in the end. -/
def inbound (maxSize : Nat) : List Message → List LinkEvent
  | [] => [.closed none]
  | message :: rest =>
      if maxSize < message.size then [.errored "Message too long", .closed none]
      else
        match message with
        | .binary bytes => .message bytes :: inbound maxSize rest
        | .text _ | .ping _ | .pong _ => inbound maxSize rest
        | .close reason => [.closed reason]
        | .lost => [.errored "Connection lost", .closed none]

structure Exchange where
  sends : List (Except Fault Unit)
  written : List Frame
  events : List LinkEvent
  openAfterClose : Bool
deriving Repr

/-- Send frames at once, read what the peer then does, and close. -/
def exchange (settings : TransportSettings) (route : Route) (url : String)
    (frames : List Frame) (messages : List Message) : Except Fault Exchange := do
  connect route url
  let (sends, box) := (Outbox.new settings.outboundQueue.toNat).sendAll frames
  return {
    sends
    written := box.frames
    events := inbound settings.maxFrameSize.toNat messages
    openAfterClose := box.close.isOpen?.getD false }

end GatewayLogin.WebSocketLink
