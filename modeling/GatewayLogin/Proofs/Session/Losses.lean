/-
Losses: an operation says at once what it takes away, and nothing of what it passes over.

One operation tells one thing at most.  Whatever ends a session that was connecting or connected
tells so; what comes too late or is asked for at the wrong time tells nothing and leaves the session
as it is; and only a login that takes the place of another gives up an attempt or a connection
without a word.  Main statement: `Session.losses_told`.
-/
import GatewayLogin.Proofs.Session.Attempts
import GatewayLogin.Proofs.Session.Notices

namespace GatewayLogin

open Notification

/-- Whether a notification says that something failed or went away. -/
def Notification.isNegative : Notification → Bool
  | status connected _ => !connected
  | login success .. => !success

/-- Whether a step passes its operation over: an event came too late, a frame was not waited for, or
a request was refused before anything was written. -/
def Step.isPassedOver (step : Step Reply) : Bool :=
  match step.reply with
  | .taken changed => !changed
  | .answered packet => packet.isNone
  | .sent (.error _) => (Effect.calls step.effects).isEmpty
  | _ => false

namespace Phase

variable {phase next : Phase} {operation : Operation} {reply : Reply}

theorem tells_length_le (phase : Phase) (operation : Operation) (reply : Reply) :
    (phase.tells operation reply).length ≤ 1 := by
  unfold tells
  repeat' split
  all_goals simp

/-- What ends a session is told with it. -/
theorem Leads.end_told (h : phase.Leads operation reply next)
    (hactive : phase.state.isActive = true) (hend : next.state.isActive = false) :
    ∃ notice, phase.tells operation reply = [notice] ∧ notice.isNegative = true := by
  cases h with
  | timedOut | unreached | erroredDialing | erroredOpened | erroredWaiting | erroredSignedIn
  | unsent | disconnected => exact ⟨_, rfl, rfl⟩
  | @rejected _ _ frame hsuccess =>
      have hcode : (Packet.receive frame).code ≠ 0 := by simpa [Packet.isSuccess] using hsuccess
      exact ⟨(Packet.receive frame).notice, rfl, by simp [Packet.notice, hcode, isNegative]⟩
  | closed =>
      simp only [tells, if_pos hactive]
      exact ⟨_, rfl, rfl⟩
  | begun | opened | sent | sentTwice | accepted => simp [state, SessionState.isActive] at hend
  | _ =>
      -- The phase stays, so it has not ended.
      rw [hactive] at hend
      cases hend

/-- What is not told: a login begins, a request is sent, nothing changes, or nothing was left to
lose. -/
theorem Leads.untold_cases (h : phase.Leads operation reply next)
    (huntold : phase.tells operation reply = []) :
    (∃ attempt, reply = .started (.ok attempt)) ∨
      (∃ login connection, phase = .opened login connection ∧ next = .waiting login connection) ∨
      next = phase ∨ phase.state.isActive = false := by
  cases h with
  | begun => exact .inl ⟨_, rfl⟩
  | sent => exact .inr (.inl ⟨_, _, rfl, rfl⟩)
  | openedLate | timedOutLate | unreachedLate | erroredLate | sentTwice | sentUnopened
  | unsolicited => exact .inr (.inr (.inl rfl))
  | closed =>
      refine .inr (.inr (.inr ?_))
      simpa [tells] using huntold
  | _ => simp [tells, isOpened] at huntold

theorem holds_nothing (phase : Phase) (h : phase.state.isActive = false) :
    phase.timer? = none ∧ phase.connection? = none ∧ phase.pending? = none ∧
      phase.inFlight? = none := by
  cases phase with
  | idle | failed | lost => exact ⟨rfl, rfl, rfl, rfl⟩
  | dialing | opened | waiting | signedIn => cases h

/-- A login that begins is not told. -/
theorem Leads.of_started {attempt : ConnectAttempt}
    (h : phase.Leads operation (.started (.ok attempt)) next) :
    ∃ credentials, operation.begun? (.started (.ok attempt)) = some ⟨credentials, attempt⟩ ∧
      phase.tells operation (.started (.ok attempt)) = [] := by
  cases h with
  | @begun _ credentials => exact ⟨credentials, rfl, rfl⟩

/-- A login that begins is dialed for. -/
theorem Leads.next_of_begun {login : Login} (h : phase.Leads operation reply next)
    (hbegun : operation.begun? reply = some login) : next = dialing login := by
  cases h with
  | begun =>
      cases hbegun
      rfl
  | refused => cases hbegun
  | _ =>
      rw [Operation.begun?_eq_none _ (by simp)] at hbegun
      cases hbegun

end Phase

namespace Session

/-- What a session gives up from one step to the next: the attempt that it waits for, the connection
that it holds, credentials that it has not sent, or the exchange that it has begun. -/
inductive Loses (s next : Session) : Prop where
  | attempt {attempt} (held : s.timer = some attempt) (gone : next.timer ≠ some attempt)
  | connection {connection} (held : s.connection = some connection)
      (gone : next.connection ≠ some connection)
  | credentials {credentials} (held : s.pending = some credentials)
      (gone : next.pending ≠ some credentials) (unsent : next.inFlight = none)
  | exchange {identity} (held : s.inFlight = some identity) (gone : next.inFlight ≠ some identity)

/-- The session after an operation that it passes over: only a frame is counted, as received. -/
def passing (s : Session) : Operation → Session
  | .frameReceived frame => { s with metrics := s.metrics.frameReceived frame.length.toUInt64 }
  | _ => s

/-- What an operation on a session tells, and what it keeps to itself. -/
structure Candid (s : Session) (operation : Operation) : Prop where
  told_le : (Effect.notifications (s.perform operation).effects).length ≤ 1
  /-- The end of an active session is told with the step that ends it. -/
  end_told : s.state.isActive = true → (s.perform operation).session.state.isActive = false →
    ∃ notice, Effect.notifications (s.perform operation).effects = [notice] ∧
      notice.isNegative = true
  passed_over : (s.perform operation).isPassedOver = true →
    Effect.notifications (s.perform operation).effects = [] ∧
      (s.perform operation).session = s.passing operation
  refused : ∀ credentials fault, operation = .startLogin credentials →
    credentials.validate = .error fault →
    (s.perform operation).reply = .started (.error fault) ∧
      Effect.notifications (s.perform operation).effects = [refusal] ∧
      (s.perform operation).session = s
  /-- A failure is told once: the close of the connection that comes after it is not told. -/
  closed_failed : ∀ reason failure, operation = .transportClosed reason →
    s.state = .failed failure → Effect.notifications (s.perform operation).effects = []
  /-- Nothing is given up untold but what a new login takes the place of. -/
  lost_iff : s.Loses (s.perform operation).session ∧
      Effect.notifications (s.perform operation).effects = [] ↔
    s.state.isActive = true ∧ ∃ attempt, (s.perform operation).reply = .started (.ok attempt)

variable {s : Session} {phase : Phase} {operation : Operation}

/-- The attempt that is waited for is the one that was numbered last. -/
theorem perform_timer_id (h : s.At phase)
    (hlast : ∀ attempt, s.timer = some attempt → attempt.id = s.attempts) (operation : Operation) :
    ∀ attempt, (s.perform operation).session.timer = some attempt →
      attempt.id = (s.perform operation).session.attempts := by
  obtain ⟨next, hleads, hnext⟩ := perform_leads h operation
  intro attempt hwaits
  rw [hnext.timer] at hwaits
  rcases s.perform_attempts operation with ⟨hnone, hcount⟩ | ⟨login, hbegun, hid, hcount⟩
  · rcases hleads.timer_cases hwaits with hbefore | hbegun
    · rw [hcount]
      exact hlast attempt (h.timer.trans hbefore)
    · rw [hnone] at hbegun
      cases hbegun
  · obtain rfl := hleads.next_of_begun hbegun
    cases hwaits
    rw [hcount, hid]

theorem run_timer_id (settings : ClientSettings) (operations : List Operation) :
    ∀ attempt, ((new settings).run operations).timer = some attempt →
      attempt.id = ((new settings).run operations).attempts := by
  induction operations using List.reverseRecOn with
  | nil => simp [run, new]
  | append_singleton before operation ih =>
      obtain ⟨phase, hat, -⟩ := run_at settings before
      rw [run_concat]
      exact perform_timer_id hat ih operation

theorem transportErrored_passed {error : String} (h : (s.transportErrored error).reply = false) :
    Effect.notifications (s.transportErrored error).effects = [] ∧
      (s.transportErrored error).session = s := by
  unfold transportErrored at h ⊢
  split at h
  · cases h
  · cases h
  · cases h
  · exact ⟨rfl, rfl⟩
  · exact ⟨rfl, rfl⟩

/-- A request that is refused with nothing written is refused by the session itself. -/
theorem sendSignIn_passed (h : s.At phase) {clock : UInt64} {write : Frame → Except Fault Unit}
    {fault : Fault} (hreply : (s.sendSignIn clock write).reply = .error fault)
    (hcalls : Effect.calls (s.sendSignIn clock write).effects = []) :
    Effect.notifications (s.sendSignIn clock write).effects = [] ∧
      (s.sendSignIn clock write).session = s := by
  cases phase with
  | opened login connection =>
      simp only [sendSignIn, h.state, h.pending, h.connection, Phase.state, Phase.pending?,
        Phase.connection?, ne_eq, not_true_eq_false, if_false] at hreply hcalls
      split at hreply
      · rename_i hwrite
        simp [hwrite] at hcalls
      · cases hreply
  | signedIn login connection =>
      simp [sendSignIn, h.state, h.pending, Phase.state, Phase.pending?]
  | _ => simp [sendSignIn, h.state, Phase.state]

theorem frameReceived_passed {frame : Frame} (h : (s.frameReceived frame).reply = none) :
    Effect.notifications (s.frameReceived frame).effects = [] ∧
      (s.frameReceived frame).session = s.passing (.frameReceived frame) := by
  by_cases hwaits : s.state = .awaitingResponse
  · simp only [frameReceived, hwaits, ne_eq, not_true_eq_false, if_false] at h
    split at h
    · cases h
    · cases h
  · simp only [frameReceived, if_pos hwaits]
    exact ⟨rfl, rfl⟩

/-- A session without a connection has nothing left to clear. -/
theorem transportClosed_passed (h : s.At phase) {reason : Option String}
    (hreply : (s.transportClosed reason).reply = false) :
    Effect.notifications (s.transportClosed reason).effects = [] ∧
      (s.transportClosed reason).session = s := by
  have hstate : s.state = .disconnected := by simpa [transportClosed] using hreply
  obtain rfl : phase = .idle := by
    rw [h.state] at hstate
    cases phase <;> simp_all [Phase.state]
  constructor
  · simp [transportClosed, hstate, SessionState.isActive]
  · obtain ⟨hstate, hconnection, htimer, hpending, hinFlight, hidentity⟩ := h
    cases s
    simp_all [transportClosed, cleared, Phase.state, Phase.connection?, Phase.timer?,
      Phase.pending?, Phase.inFlight?, Phase.identity?]

theorem perform_passed (h : s.At phase)
    (hpassed : (s.perform operation).isPassedOver = true) :
    Effect.notifications (s.perform operation).effects = [] ∧
      (s.perform operation).session = s.passing operation := by
  cases operation with
  | startLogin | disconnect => simp [perform, Step.map, Step.isPassedOver] at hpassed
  | transportOpened | timeoutElapsed | connectFailed =>
      rw [Step.isPassedOver, perform_attempt_reply s rfl, Bool.not_eq_true'] at hpassed
      constructor
      · apply Ignored.notifications
        exact ignored_of_not_isCurrent rfl hpassed
      · apply Ignored.session
        exact ignored_of_not_isCurrent rfl hpassed
  | transportErrored error =>
      apply transportErrored_passed
      simpa [perform, Step.map, Step.isPassedOver] using hpassed
  | sendSignIn clock write =>
      cases hreply : (s.sendSignIn clock write).reply with
      | ok frame => simp [perform, Step.map, Step.isPassedOver, hreply] at hpassed
      | error fault =>
          apply sendSignIn_passed h hreply
          simpa [perform, Step.map, Step.isPassedOver, hreply] using hpassed
  | frameReceived frame =>
      apply frameReceived_passed
      simpa [perform, Step.map, Step.isPassedOver] using hpassed
  | transportClosed reason =>
      apply transportClosed_passed h
      simpa [perform, Step.map, Step.isPassedOver] using hpassed

/-- A login without all that it needs is told and goes no further. -/
theorem perform_refused (s : Session) {credentials : Credentials} {fault : Fault}
    (h : credentials.validate = .error fault) :
    (s.perform (.startLogin credentials)).reply = .started (.error fault) ∧
      Effect.notifications (s.perform (.startLogin credentials)).effects = [refusal] ∧
      (s.perform (.startLogin credentials)).session = s := by
  simp [perform, Step.map, startLogin, h, refusal]

/-- A session that is not active has nothing to give up. -/
theorem At.not_loses_of_inactive (h : s.At phase) (hinactive : phase.state.isActive = false)
    (next : Session) : ¬ s.Loses next := by
  obtain ⟨htimer, hconnection, hpending, hinFlight⟩ := phase.holds_nothing hinactive
  intro hloses
  cases hloses with
  | attempt held =>
      rw [h.timer, htimer] at held
      cases held
  | connection held =>
      rw [h.connection, hconnection] at held
      cases held
  | credentials held =>
      rw [h.pending, hpending] at held
      cases held
  | exchange held =>
      rw [h.inFlight, hinFlight] at held
      cases held

/-- A session that stays in its phase gives nothing up. -/
theorem At.not_loses_of_stays {next : Session} (h : s.At phase) (hnext : next.At phase) :
    ¬ s.Loses next := by
  intro hloses
  cases hloses with
  | attempt held gone => exact gone (hnext.timer.trans (h.timer.symm.trans held))
  | connection held gone => exact gone (hnext.connection.trans (h.connection.symm.trans held))
  | credentials held gone => exact gone (hnext.pending.trans (h.pending.symm.trans held))
  | exchange held gone => exact gone (hnext.inFlight.trans (h.inFlight.symm.trans held))

/-- A session that sends its request gives nothing up. -/
theorem At.not_loses_of_sent {next : Session} {login : Login} {connection : ConnectionId}
    (h : s.At (.opened login connection)) (hnext : next.At (.waiting login connection)) :
    ¬ s.Loses next := by
  intro hloses
  cases hloses with
  | attempt held =>
      rw [h.timer] at held
      cases held
  | connection held gone => exact gone (hnext.connection.trans (h.connection.symm.trans held))
  | credentials held gone unsent =>
      rw [hnext.inFlight] at unsent
      cases unsent
  | exchange held =>
      rw [h.inFlight] at held
      cases held

/-- A login that begins on an active session takes its attempt or its connection away. -/
theorem At.loses_of_begun {next : Session} {login : Login} (h : s.At phase)
    (hactive : phase.state.isActive = true) (hnext : next.At (.dialing login))
    (hfresh : ∀ attempt, s.timer = some attempt → attempt ≠ login.attempt) : s.Loses next := by
  cases phase with
  | dialing current =>
      refine .attempt h.timer ?_
      rw [hnext.timer]
      intro hsame
      exact hfresh _ h.timer (Option.some.inj hsame).symm
  | opened | waiting | signedIn =>
      refine .connection h.connection ?_
      rw [hnext.connection]
      simp [Phase.connection?]
  | idle | failed | lost => simp [Phase.state, SessionState.isActive] at hactive

/-- What is given up is told, unless a login begins while the session is active. -/
theorem perform_loses_iff (h : s.At phase)
    (hlast : ∀ attempt, s.timer = some attempt → attempt.id = s.attempts) (operation : Operation) :
    s.Loses (s.perform operation).session ∧
        Effect.notifications (s.perform operation).effects = [] ↔
      s.state.isActive = true ∧
        ∃ attempt, (s.perform operation).reply = .started (.ok attempt) := by
  obtain ⟨next, hleads, hnext⟩ := perform_leads h operation
  rw [perform_tells h, h.state]
  constructor
  · rintro ⟨hloses, huntold⟩
    rcases hleads.untold_cases huntold with hbegun | ⟨login, connection, rfl, rfl⟩ | rfl | hinactive
    · refine ⟨?_, hbegun⟩
      cases hactive : phase.state.isActive with
      | true => rfl
      | false => exact absurd hloses (h.not_loses_of_inactive hactive _)
    · exact absurd hloses (h.not_loses_of_sent hnext)
    · exact absurd hloses (h.not_loses_of_stays hnext)
    · exact absurd hloses (h.not_loses_of_inactive hinactive _)
  · rintro ⟨hactive, attempt, hreply⟩
    rw [hreply] at hleads ⊢
    obtain ⟨credentials, hbegun, huntold⟩ := hleads.of_started
    obtain rfl := hleads.next_of_begun hbegun
    refine ⟨h.loses_of_begun hactive hnext ?_, huntold⟩
    rintro current hwaits rfl
    -- The number is the next one, so it is not that of the attempt that is waited for.
    rcases s.perform_attempts operation with ⟨hnone, -⟩ | ⟨login, hsome, hid, -⟩
    · rw [hreply, hbegun] at hnone
      cases hnone
    · rw [hreply, hbegun] at hsome
      cases hsome
      rw [hlast _ hwaits] at hid
      simp at hid

/-- Whatever was done with a session before: an operation tells one thing at most, and tells the end
of an active session with the step that ends it.  What it passes over it neither tells nor lets
change anything, the count of received frames aside, and a login without all that it needs is told
and changes nothing.  Only a login that begins on an active session gives anything up untold. -/
theorem losses_told (settings : ClientSettings) (before : List Operation) (operation : Operation) :
    ((new settings).run before).Candid operation := by
  obtain ⟨phase, hat, -⟩ := run_at settings before
  obtain ⟨next, hleads, hnext⟩ := perform_leads hat operation
  constructor
  case told_le =>
    rw [perform_tells hat]
    exact phase.tells_length_le operation _
  case end_told =>
    intro hactive hend
    rw [hat.state] at hactive
    rw [hnext.state] at hend
    rw [perform_tells hat]
    exact hleads.end_told hactive hend
  case passed_over => exact perform_passed hat
  case refused =>
    rintro credentials fault rfl hfault
    exact perform_refused _ hfault
  case closed_failed =>
    rintro reason failure rfl hfailed
    rw [hat.state] at hfailed
    rw [perform_tells hat, Phase.tells, hfailed]
    rfl
  case lost_iff => exact perform_loses_iff hat (run_timer_id settings before) operation

/-- A connection that fails and then closes is told once. -/
example :
    (new {}).told [
      .startLogin ⟨"ws://gateway", 7, 8, "secret"⟩,
      .transportOpened ⟨1, .ofSeconds 5⟩ 1,
      .transportErrored "reset",
      .transportClosed (some "gone")] =
    [.status true "connection established", .status false "transport error: reset"] := by
  decide +kernel

end Session

end GatewayLogin
