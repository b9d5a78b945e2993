/-
How a wait for the close of a connection ends.

A client holds a stream only after its login was concluded, so that no frame on the stream can
conclude anything any more: frames are ignored, the first error gives the connection up, and the
close or the end of the stream ends it all.  Main statement: `Client.waitClosed_takes_leave`.
-/
import GatewayLogin.Proofs.Client.Stream
import GatewayLogin.Proofs.Session.Told

namespace GatewayLogin

namespace LinkEvent

def isClose : LinkEvent → Bool
  | closed _ => true
  | _ => false

/-- The text of a transport error. -/
def errorText? : LinkEvent → Option String
  | errored text => some text
  | _ => none

/-- The reason that is given for a close, if one is. -/
def closeReason? : LinkEvent → Option String
  | closed reason => reason
  | _ => none

/-- The first transport error before the connection closes. -/
def firstError? (events : List LinkEvent) : Option String :=
  (events.takeWhile fun event => !event.isClose).findSome? errorText?

/-- The reason that is given when the connection closes first; none if it just ends. -/
def firstReason? (events : List LinkEvent) : Option String :=
  (events.find? isClose).bind closeReason?

/-- What the user is told of the end of a connection on which some events come: the first error, or
else the reason of the close if that says something. -/
def farewell (events : List LinkEvent) : String :=
  match firstError? events with
  | some text => "transport error: " ++ text
  | none =>
      match firstReason? events with
      | some reason => if reason = "" then "connection closed" else reason
      | none => "connection closed"

theorem farewell_nil : farewell [] = "connection closed" := rfl

theorem farewell_message (frame : Frame) (rest : List LinkEvent) :
    farewell (.message frame :: rest) = farewell rest := rfl

theorem farewell_errored (text : String) (rest : List LinkEvent) :
    farewell (.errored text :: rest) = (FailureReason.transport text).message := rfl

theorem farewell_closed (reason : Option String) (rest : List LinkEvent) :
    farewell (.closed reason :: rest) =
      if reason.getD "" = "" then "connection closed" else reason.getD "" := by
  cases reason <;> rfl

end LinkEvent

namespace Phase

variable {phase next : Phase} {reply : Reply}

/-- A login that was concluded is over, unless its connection is held. -/
theorem isActive_of_isConcluded (h : phase.isConcluded = true) :
    phase.state.isActive = phase.connection?.isSome := by
  cases phase <;> simp_all [isConcluded, state, connection?, SessionState.isActive]

theorem Leads.unsolicited_of_isConcluded {frame : Frame}
    (h : phase.Leads (.frameReceived frame) reply next) (hconcluded : phase.isConcluded = true) :
    next = phase ∧ reply = .answered none := by
  cases h with
  | accepted | rejected => simp [isConcluded] at hconcluded
  | unsolicited => exact ⟨rfl, rfl⟩

/-- An error is taken up if the connection is held, and then it is held no more. -/
theorem Leads.errored_of_isConcluded {text : String}
    (h : phase.Leads (.transportErrored text) reply next) (hconcluded : phase.isConcluded = true) :
    next.isConcluded = true ∧ next.connection? = none ∧
      reply = .taken phase.connection?.isSome := by
  cases h with
  | erroredDialing | erroredOpened | erroredWaiting => simp [isConcluded] at hconcluded
  | erroredSignedIn => exact ⟨rfl, rfl, rfl⟩
  | erroredLate hidle =>
      rw [isActive_of_isConcluded hconcluded, Option.isSome_eq_false_iff,
        Option.isNone_iff_eq_none] at hidle
      exact ⟨hconcluded, hidle, by rw [hidle]; rfl⟩

end Phase

namespace Session

variable {s : Session} {phase : Phase}

/-- Where a login was concluded, a close tells of the end of the connection if that is held. -/
theorem transportClosed_leaves (h : s.At phase) (hconcluded : phase.isConcluded = true)
    (reason : Option String) :
    (s.transportClosed reason).session.At .idle ∧
      Effect.notifications (s.transportClosed reason).effects =
        if phase.connection?.isSome then
          [.status false (if reason.getD "" = "" then "connection closed" else reason.getD "")]
        else [] := by
  have htold := perform_tells h (.transportClosed reason)
  simp only [Phase.tells, Phase.isActive_of_isConcluded hconcluded] at htold
  exact ⟨⟨rfl, rfl, rfl, rfl, rfl, rfl⟩, htold⟩

/-- Where a login was concluded, a frame changes nothing. -/
theorem frameReceived_leaves (h : s.At phase) (hconcluded : phase.isConcluded = true)
    (frame : Frame) :
    (s.frameReceived frame).session.At phase ∧
      Effect.notifications (s.frameReceived frame).effects = [] := by
  obtain ⟨next, hleads, hnext⟩ := frameReceived_leads h frame
  obtain ⟨rfl, hreply⟩ := hleads.unsolicited_of_isConcluded hconcluded
  have htold := frameReceived_tells s next frame
  rw [hreply] at htold
  exact ⟨hnext, htold⟩

/-- Where a login was concluded, an error gives up the connection and tells of it if one is held. -/
theorem transportErrored_leaves (h : s.At phase) (hconcluded : phase.isConcluded = true)
    (text : String) :
    ∃ next, (s.transportErrored text).session.At next ∧ next.isConcluded = true ∧
      next.connection? = none ∧
      Effect.notifications (s.transportErrored text).effects =
        if phase.connection?.isSome then [.status false (FailureReason.transport text).message]
        else [] := by
  obtain ⟨next, hleads, hnext⟩ := transportErrored_leads h text
  obtain ⟨hstill, hnone, hreply⟩ := hleads.errored_of_isConcluded hconcluded
  have htold := transportErrored_tells h text
  rw [hreply] at htold
  refine ⟨next, hnext, hstill, hnone, htold.trans ?_⟩
  cases phase with
  | signedIn | failed | lost => rfl
  | _ => simp [Phase.isConcluded] at hconcluded

end Session

namespace Client

open LinkEvent (farewell)

/-- Where a login was concluded, waiting on a stream that ends comes to rest.  If the connection is
held, the user is told of its end, once. -/
theorem awaitClosed_leaves {s : Session} {phase : Phase} (h : s.At phase)
    (hconcluded : phase.isConcluded = true) (later : Inbox) (hended : later.ended = true)
    (events : List LinkEvent) :
    (awaitClosed later s events).reply = some () ∧ (awaitClosed later s events).session.At .idle ∧
      Effect.notifications (awaitClosed later s events).effects =
        if phase.connection?.isSome then [.status false (farewell events)] else [] := by
  induction events generalizing s phase with
  | nil =>
      have hover : isOver later s = true := by simp only [isOver, hended, Bool.true_or]
      obtain ⟨hidle, htold⟩ := Session.transportClosed_leaves h hconcluded none
      simp only [awaitClosed, hover, if_true]
      refine ⟨trivial, hidle, ?_⟩
      rw [LinkEvent.farewell_nil]
      exact htold
  | cons event rest ih =>
      cases event with
      | message frame =>
          obtain ⟨hnext, htold⟩ := Session.frameReceived_leaves h hconcluded frame
          obtain ⟨hreply, hidle, hlater⟩ := ih hnext hconcluded
          refine ⟨hreply, hidle, ?_⟩
          rw [awaitClosed, Effect.notifications_append, htold, hlater, List.nil_append,
            LinkEvent.farewell_message]
      | errored text =>
          obtain ⟨next, hnext, hstill, hnone, htold⟩ :=
            Session.transportErrored_leaves h hconcluded text
          obtain ⟨hreply, hidle, hlater⟩ := ih hnext hstill
          refine ⟨hreply, hidle, ?_⟩
          -- No connection is held any more, so all that is told is told here.
          rw [hnone] at hlater
          rw [awaitClosed, Effect.notifications_append, htold, hlater, LinkEvent.farewell_errored]
          exact List.append_nil _
      | closed reason =>
          obtain ⟨hidle, htold⟩ := Session.transportClosed_leaves h hconcluded reason
          refine ⟨rfl, hidle, ?_⟩
          rw [LinkEvent.farewell_closed]
          exact htold

/-- Nothing that comes after a close is looked at. -/
theorem awaitClosed_past_close (s : Session) (front : List LinkEvent) (reason : Option String)
    (rest : List LinkEvent) (later other : Inbox) :
    awaitClosed later s (front ++ .closed reason :: rest) =
      awaitClosed other s (front ++ [.closed reason]) := by
  induction front generalizing s with
  | nil => rfl
  | cons event front ih =>
      cases event with
      | message frame | errored text => simp only [List.cons_append, awaitClosed, ih]
      | closed => rfl

/-- The client with this stream in the place of its own. -/
def hearing (c : Client) (inbox : Inbox) : Client :=
  { c with inbox := some inbox }

/-- After any calls, cancelled ones too, waiting for the close on a stream that is held comes to
rest once the stream ends, whatever comes on it: without a connection, an identity or a stream.  If
a connection was held, the user is told of its end and of nothing else.  What comes after a close is
not looked at.  Without a stream, waiting does nothing. -/
theorem waitClosed_takes_leave (settings : ClientSettings) (calls : List Call) (patience : Nat) :
    let c := (new settings).run calls
    (c.inbox = none →
        c.waitClosed patience = { reply := some (), client := c, effects := [] }) ∧
      (c.inbox.isSome → ∀ (events : List LinkEvent) (tied : Bool),
        let turn := (c.hearing ⟨events, true, tied⟩).waitClosed patience
        turn.reply = some () ∧
          turn.client.session.state = .disconnected ∧
          turn.client.session.connection = none ∧
          turn.client.session.identity = none ∧
          turn.client.inbox = none ∧
          Effect.notifications turn.effects =
            (if c.session.connection.isSome then [.status false (farewell events)] else []) ∧
          ∀ front reason rest, events = front ++ LinkEvent.closed reason :: rest →
            ∀ ended other, (c.hearing ⟨front ++ [.closed reason], ended, other⟩).waitClosed
              patience = turn) := by
  intro c
  constructor
  · intro hnone
    simp only [waitClosed, hnone]
  · intro hsome events tied turn
    obtain ⟨phase, hat, hconcluded⟩ := run_concluded settings calls hsome
    obtain ⟨hreply, hidle, htold⟩ :=
      awaitClosed_leaves hat hconcluded ⟨[], true, tied⟩ rfl events
    refine ⟨hreply, hidle.state, hidle.connection, hidle.identity, awaitClosed_inbox .., ?_, ?_⟩
    · rw [hat.connection]
      exact htold
    · rintro front reason rest rfl ended other
      have hpast := awaitClosed_past_close c.session front reason rest ⟨[], true, tied⟩
        ⟨[], ended, other⟩
      simp only [turn, hearing, waitClosed, hpast]
      rfl

/-- A login that is refused over a link which stays open. -/
def rejectedLogin : Call :=
  .login (.new "ws://gateway" 7 8 "secret")
    ⟨0, .opened { write := fun _ => .ok (), replies := fun _ => [.message [24, 5]] }⟩
    1700000000000 3600000

theorem leave_of_acceptedLogin :
    let told (calls : List Call) (events : List LinkEvent) := Effect.notifications
      ((((new {}).run calls).hearing ⟨events, true, false⟩).waitClosed 1000).effects
    ((new {}).run [acceptedLogin]).inbox.isSome ∧
      ((new {}).run [rejectedLogin]).inbox.isSome ∧
      ((new {}).run [acceptedLogin, .disconnect]).inbox = none ∧
      told [acceptedLogin] [.message [], .errored "reset", .closed "bye", .errored "late"] =
        [.status false "transport error: reset"] ∧
      told [acceptedLogin] [.message [], .closed "bye", .errored "late"] =
        [.status false "bye"] ∧
      told [acceptedLogin] [.closed ""] = [.status false "connection closed"] ∧
      told [acceptedLogin] [.closed none] = [.status false "connection closed"] ∧
      told [acceptedLogin] [.message []] = [.status false "connection closed"] ∧
      told [rejectedLogin] [.errored "reset", .closed "bye"] = [] ∧
      (((new {}).run [acceptedLogin, .disconnect]).waitClosed 1000).effects = [] := by
  intro told
  have hstream : ((new {}).run [acceptedLogin]).inbox.isSome := by decide +kernel
  have hfailed : ((new {}).run [rejectedLogin]).inbox.isSome := by decide +kernel
  have hnone : ((new {}).run [acceptedLogin, .disconnect]).inbox = none := by decide +kernel
  have hheld : ((new {}).run [acceptedLogin]).session.connection.isSome := by decide +kernel
  have hfree : ¬ ((new {}).run [rejectedLogin]).session.connection.isSome := by decide +kernel
  obtain ⟨hidles, -⟩ := waitClosed_takes_leave {} [acceptedLogin, .disconnect] 1000
  have haccepted (events : List LinkEvent) :
      told [acceptedLogin] events = [.status false (farewell events)] := by
    obtain ⟨-, -, -, -, -, htold, -⟩ :=
      (waitClosed_takes_leave {} [acceptedLogin] 1000).2 hstream events false
    rwa [if_pos hheld] at htold
  have hrejected (events : List LinkEvent) : told [rejectedLogin] events = [] := by
    obtain ⟨-, -, -, -, -, htold, -⟩ :=
      (waitClosed_takes_leave {} [rejectedLogin] 1000).2 hfailed events false
    rwa [if_neg hfree] at htold
  exact ⟨hstream, hfailed, hnone, haccepted _, haccepted _, haccepted _, haccepted _, haccepted _,
    hrejected _, by rw [hidles hnone]⟩

end Client

end GatewayLogin
