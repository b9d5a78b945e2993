/-
Runs of a client: sequences of calls and what they come to.
-/
import GatewayLogin.Client.Basic

namespace GatewayLogin

inductive ClientReply where
  | login (result : Except Fault Packet)
  | done
deriving Repr

def Turn.map {α β : Type} (f : α → β) (turn : Turn α) : Turn β :=
  { turn with reply := turn.reply.map f }

namespace Client

/-- One call of a client, with all that comes from outside. -/
inductive Call where
  | login (credentials : Credentials) (dialing : Dialing) (clock : UInt64) (patience : Nat)
  | waitClosed (patience : Nat)
  | disconnect

def perform (c : Client) : Call → Turn ClientReply
  | .login credentials dialing clock patience =>
      (c.login dialing clock patience credentials).map .login
  | .waitClosed patience => (c.waitClosed patience).map fun _ => .done
  | .disconnect => c.disconnect.map fun _ => .done

def turns (c : Client) : List Call → List (Turn ClientReply)
  | [] => []
  | call :: rest => c.perform call :: (c.perform call).client.turns rest

def run (c : Client) (calls : List Call) : Client :=
  calls.foldl (fun c call => (c.perform call).client) c

end Client

end GatewayLogin
