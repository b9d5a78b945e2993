/-
Requests that are not sent.

A session refuses a request at a glance, unless its connection is open and the request of its latest
login has not been sent (`Session.sendSignIn_of_not_connected`, `Session.At.sendSignIn_again`), or
it fails with the connection that does not take the frame (`Session.At.failedOver`).  In the one
case nothing has changed, in the other nothing is left over from the login, so that no session is
found half-way between.  Main statement: `Session.unsent_leaves_nothing_half_done`.
-/
import GatewayLogin.Proofs.Session.Connections
import GatewayLogin.Proofs.Session.Request

namespace GatewayLogin

/-- Whether a request was sent after the latest login among some milestones began. -/
def requested (past : List Milestone) : Bool :=
  past.foldl (fun sent milestone =>
    match milestone with
    | .begun _ => false
    | .sent => true
    | .accepted => sent) false

/-- Whether the request was sent of the login that a phase goes back to. -/
def Phase.requested? : Phase → Option Bool
  | dialing _ | opened .. => some false
  | waiting .. | signedIn .. | lost .. => some true
  | idle | failed _ => none

@[simp] theorem requested_begun (past : List Milestone) (login : Login) :
    requested (past ++ [.begun login]) = false := by
  simp [requested]

@[simp] theorem requested_sent (past : List Milestone) : requested (past ++ [.sent]) = true := by
  simp [requested]

@[simp] theorem requested_accepted (past : List Milestone) :
    requested (past ++ [.accepted]) = requested past := by
  simp [requested]

/-- A move keeps what the phase says of the request in step with the milestones. -/
theorem Phase.Leads.requested {phase next : Phase} {operation : Operation} {reply : Reply}
    (h : phase.Leads operation reply next) {past : List Milestone}
    (hpast : ∀ sent, phase.requested? = some sent → requested past = sent) {sent : Bool}
    (hnext : next.requested? = some sent) :
    GatewayLogin.requested (past ++ (operation.milestone? reply).toList) = sent := by
  cases h with
  | begun =>
      cases hnext
      exact requested_begun past _
  | sent =>
      cases hnext
      exact requested_sent past
  | accepted hsuccess =>
      simp only [Operation.milestone?, hsuccess, if_true, Option.toList_some, requested_accepted]
      exact hpast sent hnext
  | timedOut | unreached | erroredDialing | erroredOpened | erroredWaiting | unsent | rejected
  | closed | disconnected => cases hnext
  | _ =>
      -- No milestone is reached, and the login is the same.
      simp only [Operation.milestone?, Option.toList_none, List.append_nil]
      exact hpast sent hnext

namespace Session

variable {s : Session} {phase : Phase}

theorem At.connected_cases (h : s.At phase) (hstate : s.state = .connected) :
    (∃ login connection, phase = .opened login connection) ∨
      ∃ login connection, phase = .signedIn login connection := by
  rw [h.state] at hstate
  cases phase with
  | opened login connection => exact .inl ⟨login, connection, rfl⟩
  | signedIn login connection => exact .inr ⟨login, connection, rfl⟩
  | _ => cases hstate

theorem run_requested (settings : ClientSettings) (operations : List Operation) :
    ∃ phase, ((new settings).run operations).At phase ∧
      ∀ sent, phase.requested? = some sent →
        requested ((new settings).milestones operations) = sent := by
  induction operations using List.reverseRecOn with
  | nil => exact ⟨.idle, new_at settings, fun _ hidle => by cases hidle⟩
  | append_singleton before operation ih =>
      obtain ⟨phase, hat, hpast⟩ := ih
      obtain ⟨next, hleads, hnext⟩ := perform_leads hat operation
      rw [run_concat, milestones_concat]
      exact ⟨next, hnext, fun _ => hleads.requested hpast⟩

/-- Over an open connection the request was sent exactly if its credentials are gone. -/
theorem run_requested_of_connected (settings : ClientSettings) (operations : List Operation)
    (hstate : ((new settings).run operations).state = .connected) :
    requested ((new settings).milestones operations) =
      ((new settings).run operations).pending.isNone := by
  obtain ⟨phase, hat, hsent⟩ := run_requested settings operations
  rw [hat.pending]
  rcases hat.connected_cases hstate with ⟨login, connection, rfl⟩ | ⟨login, connection, rfl⟩
  · exact hsent false rfl
  · exact hsent true rfl

/-- While a request is still to be sent there is no request id. -/
theorem perform_requestId_of_pending (h : s.pending.isSome → s.requestId = none)
    (operation : Operation) :
    (s.perform operation).session.pending.isSome →
      (s.perform operation).session.requestId = none := by
  cases operation with
  | transportClosed | disconnect => exact fun hpending => by cases hpending
  | _ =>
      simp only [perform, Step.map, startLogin, transportOpened, timeoutElapsed, connectFailed,
        transportErrored, sendSignIn, frameReceived]
      -- A branch leaves both fields alone, or takes out the credentials, or forgets the request id.
      repeat' split
      all_goals first | exact h | exact fun _ => rfl | exact fun hpending => by cases hpending

theorem run_requestId_of_pending (settings : ClientSettings) (operations : List Operation) :
    ((new settings).run operations).pending.isSome →
      ((new settings).run operations).requestId = none := by
  induction operations using List.reverseRecOn with
  | nil => exact fun _ => rfl
  | append_singleton before operation ih =>
      rw [run_concat]
      exact perform_requestId_of_pending ih operation

/-- The session has failed over a write: the frame was tried once, the connection closed and let go,
nothing is left of the login, nothing was counted, and the failure was told. -/
structure FailedOver (s : Session) (step : Step (Except Fault Frame)) (connection : ConnectionId)
    (frame : Frame) (fault : Fault) : Prop where
  state : step.session.state = .failed (.transport fault.message)
  calls : Effect.calls step.effects = [(connection, .send frame), (connection, .close)]
  connection : step.session.connection = none
  pending : step.session.pending = none
  inFlight : step.session.inFlight = none
  timer : step.session.timer = none
  identity : step.session.identity = none
  requestId : step.session.requestId = none
  metrics : step.session.metrics = s.metrics
  told : Effect.notifications step.effects =
    [.status false ("transport error: " ++ fault.message)]

/-- Why a request is not sent, and what becomes of the session; `sent` tells whether the request of
the latest login was sent before. -/
inductive Unsent (s : Session) (sent : Bool) (write : Frame → Except Fault Unit)
    (step : Step (Except Fault Frame)) : Fault → Prop where
  | unopened (hstate : s.state ≠ .connected) (hsession : step.session = s)
      (heffects : step.effects = []) : Unsent s sent write step .notOpen
  | repeated (hstate : s.state = .connected) (hsent : sent = true) (hsession : step.session = s)
      (heffects : step.effects = []) :
      Unsent s sent write step (.invalidState "pending login attempt" "connected")
  | unwritten {connection : ConnectionId} {frame : Frame} {fault : Fault}
      (hstate : s.state = .connected) (hsent : sent = false)
      (hheld : s.connection = some connection) (hwrite : write frame = .error fault)
      (hfailed : s.FailedOver step connection frame fault) : Unsent s sent write step fault

theorem FailedOver.effects_ne_nil {step : Step (Except Fault Frame)} {connection : ConnectionId}
    {frame : Frame} {fault : Fault} (h : s.FailedOver step connection frame fault) :
    step.effects ≠ [] := by
  intro hnone
  have hcalls := h.calls
  rw [hnone] at hcalls
  cases hcalls

/-- A failure tells over which connection and with which frame it came. -/
theorem FailedOver.unique {step : Step (Except Fault Frame)} {connection other : ConnectionId}
    {frame written : Frame} {fault : Fault} (h : s.FailedOver step connection frame fault)
    (hother : s.FailedOver step other written fault) : other = connection ∧ written = frame := by
  have hcalls := hother.calls.symm.trans h.calls
  simp only [List.cons.injEq, Prod.mk.injEq, ConnectionCall.send.injEq] at hcalls
  exact hcalls.1

theorem sendSignIn_of_not_connected (hstate : s.state ≠ .connected) (clock : UInt64)
    (write : Frame → Except Fault Unit) : s.sendSignIn clock write = ⟨.error .notOpen, s, []⟩ := by
  rw [sendSignIn, if_pos hstate]

theorem At.sendSignIn_again {login : Login} {connection : ConnectionId}
    (h : s.At (.signedIn login connection)) (clock : UInt64) (write : Frame → Except Fault Unit) :
    s.sendSignIn clock write =
      ⟨.error (.invalidState "pending login attempt" "connected"), s, []⟩ := by
  simp only [Session.sendSignIn, h.state, h.pending, Phase.state, Phase.pending?, ne_eq,
    not_true_eq_false, if_false]
  rfl

/-- A request that is owed fails with the write, and then it leaves nothing of the login. -/
theorem At.failedOver {login : Login} {connection : ConnectionId}
    (h : s.At (.opened login connection)) (hrequestId : s.requestId = none) {clock : UInt64}
    {write : Frame → Except Fault Unit} {fault : Fault}
    (hfails : (s.sendSignIn clock write).reply = .error fault) :
    ∃ frame, write frame = .error fault ∧
      s.FailedOver (s.sendSignIn clock write) connection frame fault := by
  cases hwrite : write (signInFrame s.settings login.credentials clock).1 with
  | ok =>
      obtain ⟨hsent, -⟩ := h.sent_yields clock write hwrite
      cases hsent.symm.trans hfails
  | error refusal =>
      obtain ⟨hreply, hyields⟩ := h.unsent_yields clock write refusal hwrite
      obtain rfl : refusal = fault := Except.error.inj (hreply.symm.trans hfails)
      have hkept : (s.sendSignIn clock write).session.requestId = s.requestId ∧
          (s.sendSignIn clock write).session.metrics = s.metrics := by
        simp only [Session.sendSignIn, h.state, h.pending, h.connection, Phase.state,
          Phase.pending?, Phase.connection?, ne_eq, not_true_eq_false, if_false, hwrite]
        exact ⟨rfl, rfl⟩
      refine ⟨_, hwrite, ?_⟩
      exact {
        state := hyields.phase.state
        calls := hyields.calls
        connection := hyields.phase.connection
        pending := hyields.phase.pending
        inFlight := hyields.phase.inFlight
        timer := hyields.phase.timer
        identity := hyields.phase.identity
        requestId := hkept.1.trans hrequestId
        metrics := hkept.2
        told := hyields.told }

/-- What is still owed at the end of a run, and was not asked for in it, was not sent in it. -/
theorem requests_eq_nil_of_owing (h : s.At phase) {operations : List Operation}
    (howed : (s.run operations).pending.isSome = true) (hnone : s.logins operations = []) :
    requests (s.callsMade operations) = [] := by
  have hle := requests_le h operations
  have hone := Bool.toNat_le s.pending.isSome
  rw [howed, hnone] at hle
  apply List.eq_nil_of_length_eq_zero
  simp only [Bool.toNat_true, List.length_nil] at hle
  omega

/-- Nothing was done yet with a connection over which the request is still to be sent. -/
theorem unused_of_opened {settings : ClientSettings} {before : List Operation} {login : Login}
    {connection : ConnectionId} (h : ((new settings).run before).At (.opened login connection))
    (hopened : OpenedFor settings before login connection) (hmoved : (handedOver before).Nodup) :
    callsOn connection ((new settings).callsMade before) = [] := by
  obtain ⟨first, after, rfl, -, htaken, hnone⟩ := hopened
  obtain ⟨hfirst, hafter⟩ := handedOver_only_there hmoved
  obtain ⟨phase, hat, -⟩ := run_at settings first
  obtain ⟨hunused, hheld⟩ := untouched (new_at settings) first (by simp [new]) hfirst
  rw [run_append] at h
  have hnosend : requests (((new settings).run first).callsMade
      (.transportOpened login.attempt connection :: after)) = [] := by
    apply requests_eq_nil_of_owing hat
    · rw [h.pending]
      rfl
    · rw [logins_cons]
      exact hnone
  rcases opened_fate hat login.attempt after hheld hafter with
    ⟨hrefused, -, -⟩ | ⟨-, -, request, last, hfate, hcalls⟩
  · rw [htaken] at hrefused
    cases hrefused
  · obtain rfl : last = none := by
      cases hfate with
      | held => rfl
      | givenUp _ _ _ _ _ _ _ hnever => exact absurd h.connection hnever
    rw [callsMade_append, callsOn_append, hunused, hcalls]
    cases request with
    | none => rfl
    | some frame =>
        have hsend : .send frame ∈ callsOn connection (((new settings).run first).callsMade
            (.transportOpened login.attempt connection :: after)) := by
          rw [hcalls]
          exact List.mem_cons_self
        have hrequest := mem_requests_of_callsOn hsend
        rw [hnosend] at hrequest
        cases hrequest

/-- A connection over which the first request failed was asked for nothing else. -/
theorem callsOn_of_failedOver {settings : ClientSettings} {before : List Operation} {login : Login}
    {connection : ConnectionId} (h : ((new settings).run before).At (.opened login connection))
    (hopened : OpenedFor settings before login connection) (hmoved : (handedOver before).Nodup)
    {clock : UInt64} {write : Frame → Except Fault Unit} {frame : Frame} {fault : Fault}
    (hfailed : ((new settings).run before).FailedOver
      (((new settings).run before).sendSignIn clock write) connection frame fault) :
    callsOn connection ((new settings).callsMade (before ++ [.sendSignIn clock write])) =
      [.send frame, .close] := by
  have hmade : Effect.calls
      (((new settings).run before).perform (.sendSignIn clock write)).effects =
        [(connection, .send frame), (connection, .close)] := hfailed.calls
  rw [callsMade_concat, callsOn_append, unused_of_opened h hopened hmoved, hmade]
  simp [callsOn_cons]

/-- Whatever was done with a session before: while it is connected it holds a connection.  A request
that is not sent is refused without any change, as there is no open connection or it was sent
before, or else the connection answers the write with the fault, and then the session has failed
over it; provided that no connection is handed over twice, the frame and the close are all that was
ever asked of this one. -/
theorem unsent_leaves_nothing_half_done (settings : ClientSettings) (before : List Operation) :
    (((new settings).run before).state = .connected →
      ∃ connection, ((new settings).run before).connection = some connection) ∧
    ∀ clock write fault, (((new settings).run before).sendSignIn clock write).reply = .error fault →
      ((new settings).run before).Unsent (requested ((new settings).milestones before)) write
        (((new settings).run before).sendSignIn clock write) fault ∧
      ((handedOver before).Nodup → ∀ connection frame,
        ((new settings).run before).FailedOver
          (((new settings).run before).sendSignIn clock write) connection frame fault →
        callsOn connection ((new settings).callsMade (before ++ [.sendSignIn clock write])) =
          [.send frame, .close]) := by
  obtain ⟨phase, hat, -, hopened⟩ := run_linked settings before
  constructor
  · intro hstate
    rcases hat.connected_cases hstate with ⟨login, connection, rfl⟩ | ⟨login, connection, rfl⟩
    · exact ⟨connection, hat.connection⟩
    · exact ⟨connection, hat.connection⟩
  · intro clock write fault hfails
    by_cases hstate : ((new settings).run before).state = .connected
    · have hrequested := run_requested_of_connected settings before hstate
      rw [hat.pending] at hrequested
      rcases hat.connected_cases hstate with ⟨login, connection, rfl⟩ | ⟨login, connection, rfl⟩
      · have hrequestId : ((new settings).run before).requestId = none := by
          apply run_requestId_of_pending
          rw [hat.pending]
          rfl
        obtain ⟨frame, hwrite, hfailed⟩ := hat.failedOver hrequestId hfails
        refine ⟨.unwritten hstate hrequested hat.connection hwrite hfailed, ?_⟩
        intro hmoved other written hother
        obtain ⟨rfl, rfl⟩ := hfailed.unique hother
        exact callsOn_of_failedOver hat (hopened _ _ rfl) hmoved hother
      · rw [hat.sendSignIn_again] at hfails ⊢
        cases hfails
        exact ⟨.repeated hstate hrequested rfl rfl,
          fun _ _ _ hfailed => absurd rfl hfailed.effects_ne_nil⟩
    · rw [sendSignIn_of_not_connected hstate] at hfails ⊢
      cases hfails
      exact ⟨.unopened hstate rfl rfl, fun _ _ _ hfailed => absurd rfl hfailed.effects_ne_nil⟩

/-- A request over a broken pipe, tried from the moment that the connection is open. -/
theorem unsent_over_broken_pipe :
    let before : List Operation := [
      .startLogin ⟨"ws://gateway", 7, 8, "secret"⟩, .transportOpened ⟨1, .ofSeconds 5⟩ 1]
    let broken : Frame → Except Fault Unit := fun _ => .error (.transport "broken pipe")
    let s := (new {}).run before
    let frame := (signInFrame {} ⟨"ws://gateway", 7, 8, "secret"⟩ 1700000000000).1
    s.connection = some 1 ∧
      s.Unsent false broken (s.sendSignIn 1700000000000 broken) (.transport "broken pipe") ∧
      callsOn 1 ((new {}).callsMade (before ++ [.sendSignIn 1700000000000 broken])) =
        [.send frame, .close] := by
  intro before broken s frame
  have hstate : s.state = .connected := by decide +kernel
  have hreply : (s.sendSignIn 1700000000000 broken).reply = .error (.transport "broken pipe") := by
    rfl
  obtain ⟨hholds, hunsent⟩ := unsent_leaves_nothing_half_done {} before
  obtain ⟨connection, hheld⟩ := hholds hstate
  obtain ⟨hwhy, honly⟩ := hunsent 1700000000000 broken _ hreply
  obtain rfl : 1 = connection := Option.some.inj hheld
  refine ⟨hheld, hwhy, ?_⟩
  cases hwhy with
  | @unwritten other written _ _ _ _ _ hfailed =>
      have htried : [(1, ConnectionCall.send frame), (1, .close)] =
          [(other, .send written), (other, .close)] := hfailed.calls
      cases htried
      exact honly (by decide) 1 frame hfailed

end Session

end GatewayLogin
