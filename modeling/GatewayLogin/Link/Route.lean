/-
Routes: whether a host can be reached at all, and what is queued on a link that was opened.
-/
import GatewayLogin.Outbox
import GatewayLogin.Settings.Basic

namespace GatewayLogin

/-- What the network says to a request to connect. -/
inductive Route where
  | reachable
  /-- The host cannot be reached, for a reason that the network gives. -/
  | failing (reason : String)
deriving Repr, DecidableEq

/-- The answers to several frames sent at once, and the outbox that they leave. -/
def Outbox.sendAll (box : Outbox) : List Frame → List (Except Fault Unit) × Outbox
  | [] => ([], box)
  | frame :: rest =>
      let sent := box.send frame
      let later := sent.2.sendAll rest
      (sent.1 :: later.1, later.2)

def Outbox.frames (box : Outbox) : List Frame :=
  box.queue.filterMap fun
    | .frame frame => some frame
    | .close => none

/-- The text after a mark at the beginning of a text, or all of it. -/
def withoutStart (start text : String) : String :=
  if beginsWith start text then String.ofList (text.toList.drop start.length) else text

end GatewayLogin
