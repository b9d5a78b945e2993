/-
Dialing: what comes of a request to open a link, and when.

Time is counted in milliseconds.  An answer that comes at the very moment at which the time for it
is over still counts.
-/
import GatewayLogin.Link.Basic

namespace GatewayLogin

/-- How a request to open a link is answered in the end. -/
inductive DialAnswer where
  | never
  | failed (fault : Fault)
  | opened (link : Link)

/-- How a request to open a link is answered, and after how many milliseconds. -/
structure Dialing where
  delay : Nat := 0
  answer : DialAnswer

/-- What the caller sees of a request to open a link. -/
inductive DialOutcome where
  | opened (link : Link)
  | failed (fault : Fault)
  | timedOut
  /-- The caller gave up before anything happened. -/
  | abandoned

def Dialing.due? (dialing : Dialing) : Option Nat :=
  match dialing.answer with
  | .never => none
  | _ => some dialing.delay

/-- What is seen of an answer that came in time. -/
def DialAnswer.outcome : DialAnswer → DialOutcome
  | .never => .abandoned
  | .failed fault => .failed fault
  | .opened link => .opened link

/-- What a caller sees who allows `timeout` milliseconds for the answer and has patience for
`patience` milliseconds in all, and how long it takes. -/
def Dialing.await (dialing : Dialing) (timeout patience : Nat) : DialOutcome × Nat :=
  let inTime := dialing.due?.any (· ≤ timeout)
  let moment := if inTime then dialing.delay else timeout
  if patience < moment then (.abandoned, patience)
  else if inTime then (dialing.answer.outcome, moment)
  else (.timedOut, moment)

end GatewayLogin
