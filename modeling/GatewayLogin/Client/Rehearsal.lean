/-
Rehearsals: a client against scripted peers.

A script says how a request to open a link is answered.  An opened link has an outbox for eight
commands and a peer that empties it: the peer notes every frame, answers it by its script, and
stops at a closing command or when the outbox is gone, and the stream of events ends with it.
Between two calls each peer handles all that
is queued.
-/
import GatewayLogin.Client.Run
import GatewayLogin.Connection

namespace GatewayLogin

inductive PeerReply where
  | event (event : LinkEvent)
  /-- A packet with the request id of the frame it answers. -/
  | echo (code : Int32) (message : String)
deriving Repr, DecidableEq

/-- The request id that an answer to a frame repeats; zero if the frame is no packet. -/
def echoedId (frame : Frame) : UInt64 :=
  match Packet.decode frame with
  | .ok packet => packet.requestId
  | .error _ => 0

/-- The event that an answer to a request brings. -/
def PeerReply.resolve (requestId : UInt64) : PeerReply → LinkEvent
  | .event e => e
  | .echo code message =>
      .message (Packet.encode ⟨Command.signInNumber, requestId, code, message, none⟩)

structure LinkScript where
  /-- What the peer says before it was asked. -/
  early : List PeerReply := []
  replies : List PeerReply := []
  /-- Whether the stream ends after the answers. -/
  ends : Bool := false
  /-- Whether there is no peer at all. -/
  writerGone : Bool := false
deriving Repr, DecidableEq

/-- The room in the outbox of a scripted link. -/
def LinkScript.capacity : Nat := 8

def LinkScript.outbox (script : LinkScript) : Outbox :=
  if script.writerGone then (Outbox.new capacity).dropWriter else Outbox.new capacity

/-- The link of a script.  What was not asked for answers the request zero.  Without a peer nothing
is answered, and the stream ends early. -/
def LinkScript.link (script : LinkScript) : Link where
  write _ := script.outbox.verdict
  early := script.early.map (PeerReply.resolve 0)
  replies frame :=
    if script.writerGone then [] else script.replies.map (PeerReply.resolve (echoedId frame))
  ends := script.ends || script.writerGone
  tied := true

/-- How a request to open a link is scripted to be answered. -/
inductive DialScript where
  | hang
  | fail (fault : Fault)
  | opens (script : LinkScript)
deriving Repr, DecidableEq

/-- How a request to open a link is answered, and after how many milliseconds. -/
structure DialPlan where
  delay : Nat := 0
  script : DialScript
deriving Repr, DecidableEq

def DialPlan.dialing (plan : DialPlan) : Dialing where
  delay := plan.delay
  answer :=
    match plan.script with
    | .hang => .never
    | .fail fault => .failed fault
    | .opens script => .opened script.link

/-- The outbox that a plan brings, if it opens a link. -/
def DialPlan.outbox? (plan : DialPlan) : Option Outbox :=
  match plan.script with
  | .opens script => some script.outbox
  | _ => none

/-- What is known of the peer of a link. -/
structure Peer where
  frames : List Frame := []
  closed : Bool := false
deriving Repr, DecidableEq

def Peer.handle (peer : Peer) : Outbound → Peer
  | .frame frame => if peer.closed then peer else { peer with frames := peer.frames ++ [frame] }
  | .close => { peer with closed := true }

/-- A peer handles all that is queued for it. -/
def Peer.settle (peer : Peer) (box : Outbox) : Peer × Outbox :=
  if !box.writer then (peer, box)
  else
    let peer := box.queue.foldl Peer.handle peer
    if peer.closed || box.sender != .opened then ({ peer with closed := true }, box.dropWriter)
    else (peer, { box with queue := [] })

/-- One call of a client, with all that comes from outside. -/
inductive ClientCall where
  | login (credentials : Credentials) (plan : DialPlan) (clock : UInt64)
  /-- Log in where the settings say. -/
  | loginDefault (userId deviceId : UInt64) (token : String) (plan : DialPlan) (clock : UInt64)
  | waitClosed
  | disconnect

/-- A client with all its links, their peers, and the URLs dialed so far. -/
structure Rehearsal where
  client : Client
  board : Switchboard := []
  peers : List Peer := []
  dialed : List String := []

structure Scene where
  /-- The answer; none if the call was abandoned. -/
  reply : Option ClientReply
  waited : Nat
  notes : List Notification
  logs : List LogEntry
  rehearsal : Rehearsal

namespace Rehearsal

/-- The milliseconds after which a call is abandoned. -/
def patience : Nat := 3600000

def new (settings : ClientSettings) : Rehearsal := { client := Client.new settings }

/-- The call of a client that a scripted call is. -/
def callOf (r : Rehearsal) : ClientCall → Client.Call
  | .login credentials plan clock => .login credentials plan.dialing clock patience
  | .loginDefault userId deviceId token plan clock =>
      .login (Credentials.new r.client.serverUrl userId deviceId token) plan.dialing clock patience
  | .waitClosed => .waitClosed patience
  | .disconnect => .disconnect

def turn (r : Rehearsal) (call : ClientCall) : Turn ClientReply :=
  r.client.perform (r.callOf call)

/-- The outbox that a call brings if it opens a link. -/
def outbox? : ClientCall → Option Outbox
  | .login _ plan _ => plan.outbox?
  | .loginDefault _ _ _ plan _ => plan.outbox?
  | _ => none

/-- Let a peer handle what is queued for it. -/
def settlePeer (pair : Connection × Peer) : Connection × Peer :=
  match pair.1 with
  | .outbox box =>
      let (peer, box) := pair.2.settle box
      (.outbox box, peer)
  | connection => (connection, pair.2)

/-- Do one call and let the peers settle. -/
def play (r : Rehearsal) (call : ClientCall) : Scene :=
  let turn := r.turn call
  let opened := if r.client.links < turn.client.links then (outbox? call).toList else []
  let settled := settle .channel (r.board ++ opened.map .outbox) turn.effects
  let peers := r.peers ++ opened.map fun _ => (Peer.mk [] false)
  let pairs := (List.zip settled.board peers).map settlePeer
  { reply := turn.reply
    waited := turn.waited
    notes := settled.notes
    logs := settled.logs
    rehearsal :=
      { client := turn.client
        board := pairs.map Prod.fst
        peers := pairs.map Prod.snd
        dialed := r.dialed ++ turn.dialed.toList } }

end Rehearsal

end GatewayLogin
