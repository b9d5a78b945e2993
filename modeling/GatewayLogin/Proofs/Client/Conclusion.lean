/-
How a login ends.

Whatever went on before, what a login with complete credentials comes to depends on nothing but how
the request to open a link is answered and, if one opens, on what it says to the request and on its
first event (`Link.Concludes`, `Dialing.Concludes`).  Given more time than its timeout, a login ends
unless the peer keeps silent.  Main statement: `Client.login_concludes_as_decided`.
-/
import GatewayLogin.Proofs.Client.Reachable
import GatewayLogin.Proofs.Session.Awaited

namespace GatewayLogin

/-- What shows of a login that is over. -/
structure Conclusion where
  result : Except Fault Packet
  state : SessionState
  identity : Option Identity := none
  connection : Option ConnectionId := none
  /-- What is left of the stream of events, as far as it is held. -/
  inbox : Option Inbox := none
  /-- The calls on the connection of the login. -/
  calls : List ConnectionCall := []
  told : List Notification

/-- What a login comes to over a link that opened, as its answer to the request and its first event
decide.  At most that one event is taken. -/
inductive Link.Concludes (link : Link) (credentials : Credentials) (frame : Frame)
    (connection : ConnectionId) : Conclusion → Prop where
  | unsent {fault} (hwrite : link.write frame = .error fault) :
      Concludes link credentials frame connection {
        result := .error fault
        state := .failed (.transport fault.message)
        inbox := some ⟨link.early, link.ends, link.tied⟩
        calls := [.send frame, .close]
        told := [.status true "connection established",
          .status false ("transport error: " ++ fault.message)] }
  | accepted {reply rest packet} (hwrite : link.write frame = .ok ())
      (hfirst : link.early ++ link.replies frame = .message reply :: rest)
      (hpacket : Packet.decode reply = .ok packet) (hcode : packet.code = 0) :
      Concludes link credentials frame connection {
        result := .ok packet
        state := .connected
        identity := some ⟨credentials.userId, credentials.deviceId⟩
        connection := some connection
        inbox := some ⟨rest, link.ends, link.tied⟩
        calls := [.send frame]
        told := [.status true "connection established",
          .login true 0 (if packet.message = "" then "login succeeded" else packet.message)] }
  | rejected {reply rest packet} (hwrite : link.write frame = .ok ())
      (hfirst : link.early ++ link.replies frame = .message reply :: rest)
      (hpacket : Packet.decode reply = .ok packet) (hcode : packet.code ≠ 0) :
      Concludes link credentials frame connection {
        result := .error (.rejected packet.code packet.message)
        state := .failed (.rejected packet.code)
        inbox := some ⟨rest, link.ends, link.tied⟩
        calls := [.send frame, .close]
        told := [.status true "connection established",
          .login false packet.code
            (if packet.message = "" then "login failed" else packet.message)] }
  | unreadable {reply rest fault} (hwrite : link.write frame = .ok ())
      (hfirst : link.early ++ link.replies frame = .message reply :: rest)
      (hfault : Packet.decode reply = .error fault) :
      Concludes link credentials frame connection {
        result := .error (.rejected (-1) "parse error")
        state := .failed (.rejected (-1))
        inbox := some ⟨rest, link.ends, link.tied⟩
        calls := [.send frame, .close]
        told := [.status true "connection established", .login false (-1) "parse error"] }
  | errored {text rest} (hwrite : link.write frame = .ok ())
      (hfirst : link.early ++ link.replies frame = .errored text :: rest) :
      Concludes link credentials frame connection {
        result := .error (.transport text)
        state := .failed (.transport text)
        inbox := some ⟨rest, link.ends, link.tied⟩
        calls := [.send frame, .close]
        told := [.status true "connection established",
          .status false ("transport error: " ++ text)] }
  | closed {reason rest} (hwrite : link.write frame = .ok ())
      (hfirst : link.early ++ link.replies frame = .closed reason :: rest) :
      Concludes link credentials frame connection {
        result := .error .connectionClosed
        state := .disconnected
        calls := [.send frame, .drop]
        told := [.status true "connection established",
          .status false (if reason.getD "" = "" then "connection closed" else reason.getD "")] }
  | ended (hwrite : link.write frame = .ok ())
      (hnone : link.early ++ link.replies frame = []) (hends : link.ends = true) :
      Concludes link credentials frame connection {
        result := .error .connectionClosed
        state := .disconnected
        calls := [.send frame, .drop]
        told := [.status true "connection established", .status false "connection closed"] }

/-- The answer to the request and the first event leave one conclusion. -/
theorem Link.Concludes.unique {link : Link} {credentials : Credentials} {frame : Frame}
    {connection : ConnectionId} {conclusion other : Conclusion}
    (h : link.Concludes credentials frame connection conclusion)
    (hother : link.Concludes credentials frame connection other) : other = conclusion := by
  cases h <;> cases hother <;> simp_all

namespace Dialing

/-- What a login comes to, as the answer to the request to open a link decides if it comes within
the timeout. -/
inductive Concludes (dialing : Dialing) (timeout : Nat) (credentials : Credentials)
    (frame : Frame) (connection : ConnectionId) : Conclusion → Prop where
  | timedOut (hlate : dialing.answer = .never ∨ timeout < dialing.delay ∨
        dialing.answer = .failed .connectTimeout) :
      Concludes dialing timeout credentials frame connection {
        result := .error .connectTimeout
        state := .failed .connectTimeout
        told := [.status false "connection timed out"] }
  | unreached {fault} (hdelay : dialing.delay ≤ timeout) (hanswer : dialing.answer = .failed fault)
      (hother : fault ≠ .connectTimeout) :
      Concludes dialing timeout credentials frame connection {
        result := .error fault
        state := .failed (.connectFailed fault.message)
        told := [.status false ("connection failed: " ++ fault.message)] }
  | opened {link conclusion} (hdelay : dialing.delay ≤ timeout)
      (hanswer : dialing.answer = .opened link)
      (h : link.Concludes credentials frame connection conclusion) :
      Concludes dialing timeout credentials frame connection conclusion

/-- A link opens and takes the request, and then nothing comes any more, not even the end. -/
def Silent (dialing : Dialing) (timeout : Nat) (frame : Frame) : Prop :=
  ∃ link, dialing.delay ≤ timeout ∧ dialing.answer = .opened link ∧ link.write frame = .ok () ∧
    link.early ++ link.replies frame = [] ∧ link.ends = false

theorem Concludes.not_silent {dialing : Dialing} {timeout : Nat} {credentials : Credentials}
    {frame : Frame} {connection : ConnectionId} {conclusion : Conclusion}
    (h : dialing.Concludes timeout credentials frame connection conclusion) :
    ¬ dialing.Silent timeout frame := by
  rintro ⟨link, hdelay, hanswer, hwrite, hnone, hends⟩
  cases h with
  | timedOut hlate =>
      rcases hlate with hnever | hlong | htimeout
      · simp [hanswer] at hnever
      · exact Nat.not_lt.mpr hdelay hlong
      · simp [hanswer] at htimeout
  | unreached _ hfailed => simp [hanswer] at hfailed
  | opened _ hopened h =>
      obtain rfl := DialAnswer.opened.inj (hanswer.symm.trans hopened)
      cases h <;> simp_all

theorem Concludes.unique {dialing : Dialing} {timeout : Nat} {credentials : Credentials}
    {frame : Frame} {connection : ConnectionId} {conclusion other : Conclusion}
    (h : dialing.Concludes timeout credentials frame connection conclusion)
    (hother : dialing.Concludes timeout credentials frame connection other) :
    other = conclusion := by
  cases h with
  | timedOut hlate =>
      cases hother with
      | timedOut => rfl
      | unreached hdelay hanswer hfault =>
          simp [hanswer, Nat.not_lt.mpr hdelay, hfault] at hlate
      | opened hdelay hanswer => simp [hanswer, Nat.not_lt.mpr hdelay] at hlate
  | unreached hdelay hanswer hfault =>
      cases hother with
      | timedOut hlate => simp [hanswer, Nat.not_lt.mpr hdelay, hfault] at hlate
      | unreached _ hsame =>
          obtain rfl := DialAnswer.failed.inj (hanswer.symm.trans hsame)
          rfl
      | opened _ hopened => simp [hanswer] at hopened
  | opened hdelay hanswer h =>
      cases hother with
      | timedOut hlate => simp [hanswer, Nat.not_lt.mpr hdelay] at hlate
      | unreached _ hfailed => simp [hanswer] at hfailed
      | opened _ hsame hother =>
          obtain rfl := DialAnswer.opened.inj (hanswer.symm.trans hsame)
          exact h.unique hother

/-- What the caller sees of a request to open a link, in terms of the answer and its delay. -/
theorem await_cases (dialing : Dialing) (timeout patience : Nat) :
    (dialing.await timeout patience).2 ≤ timeout ∧
      match (dialing.await timeout patience).1 with
      | .opened link => dialing.delay ≤ timeout ∧ dialing.answer = .opened link
      | .failed fault => dialing.delay ≤ timeout ∧ dialing.answer = .failed fault
      | .timedOut => dialing.answer = .never ∨ timeout < dialing.delay
      | .abandoned => patience < timeout := by
  obtain ⟨delay, answer⟩ := dialing
  cases answer with
  | never =>
      by_cases hpatience : patience < timeout
      · simp [await, due?, hpatience, Nat.le_of_lt]
      · simp [await, due?, hpatience]
  | failed | opened =>
      by_cases hdelay : delay ≤ timeout
      · by_cases hpatience : patience < delay
        · have hless : patience < timeout := Nat.lt_of_lt_of_le hpatience hdelay
          simp [await, due?, hdelay, hpatience, hless, Nat.le_of_lt hless]
        · simp [await, due?, hdelay, hpatience, DialAnswer.outcome]
      · by_cases hpatience : patience < timeout
        · simp [await, due?, hdelay, hpatience, Nat.le_of_lt]
        · simp [await, due?, hdelay, hpatience, Nat.lt_of_not_le hdelay]

end Dialing

/-- What was waited for came to the conclusion of the login. -/
structure Client.Waited.Shows (waited : Waited (Except Fault Packet)) (frame : Frame)
    (connection : ConnectionId) (conclusion : Conclusion) : Prop where
  reply : waited.reply = some conclusion.result
  state : waited.session.state = conclusion.state
  identity : waited.session.identity = conclusion.identity
  held : waited.session.connection = conclusion.connection
  inbox : waited.inbox = conclusion.inbox
  calls : (connection, .send frame) :: Effect.calls waited.effects =
    conclusion.calls.map fun call => (connection, call)
  told : .status true "connection established" :: Effect.notifications waited.effects =
    conclusion.told

/-- The turn came to the conclusion of the login, after some earlier calls. -/
structure Turn.Shows (turn : Turn (Except Fault Packet))
    (earlier : List (ConnectionId × ConnectionCall)) (connection : ConnectionId)
    (conclusion : Conclusion) : Prop where
  reply : turn.reply = some conclusion.result
  state : turn.client.session.state = conclusion.state
  identity : turn.client.session.identity = conclusion.identity
  held : turn.client.session.connection = conclusion.connection
  inbox : turn.client.inbox = conclusion.inbox
  calls : Effect.calls turn.effects =
    earlier ++ conclusion.calls.map fun call => (connection, call)
  told : Effect.notifications turn.effects = conclusion.told

/-- Whatever comes in time, the events are those of the link in their order. -/
theorem Link.answering_events (link : Link) (frame : Frame) (hasTime : Bool) :
    (link.answering frame hasTime).1 ++ (link.answering frame hasTime).2.events =
        link.early ++ link.replies frame ∧
      (link.answering frame hasTime).2.ended = link.ends ∧
      (link.answering frame hasTime).2.tied = link.tied ∧
      (hasTime = true → (link.answering frame hasTime).2.events = []) := by
  cases hasTime <;> simp [Link.answering]

namespace Client

variable {s : Session} {login : Login} {connection : ConnectionId} {link : Link} {frame : Frame}

/-- What an operation of the session comes to shows in the wait that it ends. -/
theorem waited_shows {α : Type} {step : Step α} {next : Phase} (made : List ConnectionCall)
    {told : List Notification}
    (h : step.Yields next (made.map fun call => (connection, call)) told)
    (result : Except Fault Packet) (inbox : Option Inbox) (frame : Frame) :
    Waited.Shows ⟨some result, step.session, inbox, step.effects⟩ frame connection {
      result, state := next.state, identity := next.identity?, connection := next.connection?, inbox
      calls := .send frame :: made
      told := .status true "connection established" :: told } :=
  ⟨rfl, h.phase.state, h.phase.identity, h.phase.connection, rfl, congrArg (_ :: ·) h.calls,
    congrArg (_ :: ·) h.told⟩

/-- A message concludes the login by its code. -/
theorem message_concludes (h : s.At (.waiting login connection))
    (hwrite : link.write frame = .ok ()) {reply : Frame} {rest : List LinkEvent}
    (hfirst : link.early ++ link.replies frame = .message reply :: rest) (hasTime : Bool)
    {later : Inbox} {inTime : List LinkEvent}
    (hinbox : later.withFront inTime = ⟨rest, link.ends, link.tied⟩) :
    ∃ conclusion, link.Concludes login.credentials frame connection conclusion ∧
      (awaitResponse hasTime later s (.message reply :: inTime)).Shows frame connection
        conclusion := by
  obtain ⟨hreply, hyields⟩ := h.frameReceived_yields reply
  simp only [awaitResponse, hreply, hinbox]
  cases hdecode : Packet.decode reply with
  | error fault =>
      have hpacket : Packet.receive reply = Packet.parseError := by
        rw [Packet.receive, hdecode]
      rw [hpacket] at hyields ⊢
      exact ⟨_, .unreadable hwrite hfirst hdecode, waited_shows [.close] hyields _ _ _⟩
  | ok packet =>
      have hpacket : Packet.receive reply = packet := by
        rw [Packet.receive, hdecode]
      rw [hpacket, Packet.notice] at hyields
      rw [hpacket, verdict]
      by_cases hcode : packet.code = 0
      · have hsuccess : packet.isSuccess = true := by simp [Packet.isSuccess, hcode]
        simp only [hsuccess, if_pos hcode, if_true] at hyields ⊢
        exact ⟨_, .accepted hwrite hfirst hdecode hcode, waited_shows [] hyields _ _ _⟩
      · have hfailure : packet.isSuccess = false := by simp [Packet.isSuccess, hcode]
        simp only [hfailure, if_neg hcode] at hyields ⊢
        exact ⟨_, .rejected hwrite hfirst hdecode hcode, waited_shows [.close] hyields _ _ _⟩

/-- What comes on a link after the request concludes the login, unless nothing comes. -/
theorem awaitResponse_concludes (h : s.At (.waiting login connection))
    (hwrite : link.write frame = .ok ()) (hasTime : Bool) :
    let waited := awaitResponse hasTime (link.answering frame hasTime).2 s
      (link.answering frame hasTime).1
    (∃ conclusion, link.Concludes login.credentials frame connection conclusion ∧
        waited.Shows frame connection conclusion) ∨
      waited.reply = none ∧
        (hasTime = true → link.early ++ link.replies frame = [] ∧ link.ends = false) := by
  obtain ⟨hevents, hended, htied, htime⟩ := link.answering_events frame hasTime
  generalize link.answering frame hasTime = answer at hevents hended htied htime ⊢
  obtain ⟨inTime, behind, ended, tied⟩ := answer
  subst hended htied
  simp only at hevents htime ⊢
  have hclosed (reason : Option String) :=
    waited_shows [.drop] (h.transportClosed_yields reason) (.error .connectionClosed) none frame
  cases inTime with
  | nil =>
      -- While the connection is held, the stream ends only by itself.
      have hisOver : isOver ⟨behind, link.ends, link.tied⟩ s = link.ends := by
        simp [isOver, h.connection, Phase.connection?]
      by_cases hover : hasTime && link.ends
      · obtain ⟨rfl, hends⟩ := Bool.and_eq_true_iff.mp hover
        refine .inl ⟨_, .ended hwrite (hevents.symm.trans (htime rfl)) hends, ?_⟩
        simp only [awaitResponse, hends]
        exact hclosed none
      · refine .inr ⟨by simp only [awaitResponse, hisOver, if_neg hover], fun hhas => ?_⟩
        refine ⟨hevents.symm.trans (htime hhas), ?_⟩
        simpa [hhas] using hover
  | cons event rest =>
      have hinbox : Inbox.withFront ⟨behind, link.ends, link.tied⟩ rest =
          ⟨rest ++ behind, link.ends, link.tied⟩ := rfl
      -- Whatever the event is, it concludes.
      left
      cases event with
      | message reply => exact message_concludes h hwrite hevents.symm hasTime hinbox
      | errored text =>
          exact ⟨_, .errored hwrite hevents.symm,
            waited_shows [.close] (h.transportErrored_yields text) _ _ _⟩
      | closed reason => exact ⟨_, .closed hwrite hevents.symm, hclosed reason⟩

/-- A link that opens settles the login, unless it takes the request and nothing comes. -/
theorem signIn_concludes {c : Client} (h : c.session.At (.dialing login)) (clock : UInt64)
    (hasTime : Bool) (link : Link) :
    let frame := (Session.signInFrame c.session.settings login.credentials clock).1
    let turn := c.signIn login.attempt clock hasTime link
    (∃ conclusion, link.Concludes login.credentials frame (c.links + 1) conclusion ∧
        turn.Shows [] (c.links + 1) conclusion) ∨
      turn.reply = none ∧ (hasTime = true → link.write frame = .ok () ∧
        link.early ++ link.replies frame = [] ∧ link.ends = false) := by
  have hreply := (h.transportOpened (c.links + 1)).1
  obtain ⟨hopened, hcalls, htold⟩ := h.transportOpened_yields (c.links + 1)
  have hsettings := c.session.perform_settings (.transportOpened login.attempt (c.links + 1))
  simp only [Session.perform, Step.map] at hsettings
  have hunsent (fault : Fault) := hopened.unsent_yields clock link.write fault
  have hsent := hopened.sent_yields clock link.write
  rw [hsettings] at hsent hunsent
  intro frame turn
  simp only [turn, signIn, hreply, if_true]
  cases hwrite : link.write frame with
  | error fault =>
      obtain ⟨hrefused, hfailed, hmade, hnotified⟩ := hunsent fault hwrite
      simp only [hrefused]
      refine .inl ⟨_, .unsent hwrite, rfl, hfailed.state, hfailed.identity, hfailed.connection,
        rfl, ?_, ?_⟩
      · simp only [Effect.calls_append, hcalls, hmade]
        rfl
      · simp only [Effect.notifications_append, htold, hnotified]
        rfl
  | ok =>
      obtain ⟨hreply, ⟨hwaiting, hmade, hnotified⟩, -⟩ := hsent hwrite
      simp only [hreply]
      rcases awaitResponse_concludes hwaiting hwrite hasTime with
        ⟨conclusion, hconcludes, hshows⟩ | ⟨hnone, hsilent⟩
      · refine .inl ⟨conclusion, hconcludes, hshows.reply, hshows.state, hshows.identity,
          hshows.held, hshows.inbox, ?_, ?_⟩
        · simp only [Effect.calls_append, hcalls, hmade]
          exact hshows.calls
        · simp only [Effect.notifications_append, htold, hnotified]
          exact hshows.told
      · exact .inr ⟨hnone, fun hhas => ⟨trivial, hsilent hhas⟩⟩

/-- A link that did not open calls nothing, and the login fails for the same reason. -/
theorem unopened_shows {c : Client} (hinbox : c.inbox = none) {α : Type} {step : Step α}
    {reason : FailureReason} (h : step.Yields (.failed reason) [] [.status false reason.message])
    (fault : Fault) (connection : ConnectionId) :
    Turn.Shows {
        reply := some (.error fault)
        client := { c with session := step.session }
        effects := step.effects } [] connection {
      result := .error fault
      state := .failed reason
      told := [.status false reason.message] } :=
  ⟨rfl, h.phase.state, h.phase.identity, h.phase.connection, hinbox, h.calls, h.told⟩

/-- What comes of dialing settles the login, unless patience ends first or the peer is silent. -/
theorem afterDialing_concludes {c : Client} (h : c.session.At (.dialing login))
    (hinbox : c.inbox = none) (clock : UInt64) (dialing : Dialing) (timeout patience : Nat) :
    let frame := (Session.signInFrame c.session.settings login.credentials clock).1
    let seen := dialing.await timeout patience
    let turn := c.afterDialing login.attempt clock (seen.2 < patience) seen.1
    (∃ conclusion, dialing.Concludes timeout login.credentials frame (c.links + 1) conclusion ∧
        turn.Shows [] (c.links + 1) conclusion) ∨
      turn.reply = none ∧ (timeout < patience → dialing.Silent timeout frame) := by
  obtain ⟨hwaited, hseen⟩ := dialing.await_cases timeout patience
  generalize dialing.await timeout patience = seen at hwaited hseen
  obtain ⟨outcome, waited⟩ := seen
  intro frame seen turn
  cases outcome with
  | opened link =>
      obtain ⟨hdelay, hanswer⟩ := hseen
      rcases signIn_concludes h clock (waited < patience) link with
        ⟨conclusion, hconcludes, hshows⟩ | ⟨hnone, hsilent⟩
      · exact .inl ⟨conclusion, .opened hdelay hanswer hconcludes, hshows⟩
      · refine .inr ⟨hnone, fun hpatient => ⟨link, hdelay, hanswer, hsilent ?_⟩⟩
        exact decide_eq_true (Nat.lt_of_le_of_lt hwaited hpatient)
  | timedOut =>
      exact .inl ⟨_, .timedOut (hseen.imp_right .inl),
        unopened_shows hinbox h.timeoutElapsed_yields _ _⟩
  | failed fault =>
      obtain ⟨hdelay, hanswer⟩ := hseen
      cases fault with
      | connectTimeout =>
          exact .inl ⟨_, .timedOut (.inr (.inr hanswer)),
            unopened_shows hinbox h.timeoutElapsed_yields _ _⟩
      | _ =>
          exact .inl ⟨_, .unreached hdelay hanswer (by simp),
            unopened_shows hinbox (h.connectFailed_yields _) _ _⟩
  | abandoned => exact .inr ⟨rfl, fun hpatient => absurd hpatient (Nat.lt_asymm hseen)⟩

/-- Whatever the client, a login with complete credentials comes to what is decided, unless patience
ends first or the peer is silent. -/
theorem login_concludes (c : Client) {credentials : Credentials}
    (hvalid : credentials.validate = .ok ()) (dialing : Dialing) (clock : UInt64)
    (patience : Nat) :
    let frame := (Session.signInFrame c.session.settings credentials clock).1
    let timeout := c.session.settings.connectTimeout.ticks
    let turn := c.login dialing clock patience credentials
    (∃ conclusion, dialing.Concludes timeout credentials frame (c.links + 1) conclusion ∧
        turn.Shows (c.session.connection.toList.map fun held => (held, .close)) (c.links + 1)
          conclusion) ∨
      turn.reply = none ∧ (timeout < patience → dialing.Silent timeout frame) := by
  obtain ⟨attempt, hattempt, htimeout, hstarted, hcalls, htold⟩ :=
    c.session.startLogin_yields hvalid
  have hsettings := c.session.perform_settings (.startLogin credentials)
  simp only [Session.perform, Step.map] at hsettings
  have hsettled := afterDialing_concludes (c := c.startingLogin credentials) hstarted rfl clock
    dialing attempt.timeout.ticks patience
  simp only [startingLogin, hsettings, htimeout] at hsettled
  intro frame timeout turn
  simp only [turn, login, hattempt, htimeout]
  rcases hsettled with ⟨conclusion, hconcludes, hshows⟩ | hnone
  · refine .inl ⟨conclusion, hconcludes, hshows.reply, hshows.state, hshows.identity,
      hshows.held, hshows.inbox, ?_, ?_⟩
    · simp only [Effect.calls_append, Effect.calls_log_cons, hcalls, hshows.calls, List.nil_append]
    · simp only [Effect.notifications_append, Effect.notifications_log_cons, htold, hshows.told,
        List.nil_append]
  · exact .inr hnone

/-- After any calls, cancelled ones too, a login with complete credentials that comes to an end
comes to what the answer to the request to open a link and the first event on it decide.  The answer
to the caller, the session, the rest of the stream, the calls on the connection and the
notifications all fit; before that, a connection that was held is closed.  A login with more
patience than the timeout comes to an end unless the peer is silent. -/
theorem login_concludes_as_decided (settings : ClientSettings) (calls : List Call)
    (credentials : Credentials) (hvalid : credentials.validate = .ok ()) (dialing : Dialing)
    (clock : UInt64) (patience : Nat) :
    let c := (new settings).run calls
    let turn := c.login dialing clock patience credentials
    let frame := (Session.signInFrame settings credentials clock).1
    let timeout := settings.connectTimeout.ticks
    (turn.reply.isSome → ∃ conclusion,
        dialing.Concludes timeout credentials frame (c.links + 1) conclusion ∧
        (∀ other, dialing.Concludes timeout credentials frame (c.links + 1) other →
          other = conclusion) ∧
        turn.Shows (c.session.connection.toList.map fun held => (held, .close)) (c.links + 1)
          conclusion) ∧
      (timeout < patience → (turn.reply = none ↔ dialing.Silent timeout frame)) := by
  intro c turn frame timeout
  have hsettled := c.login_concludes hvalid dialing clock patience
  rw [run_settings settings calls] at hsettled
  constructor
  · intro hended
    rcases hsettled with ⟨conclusion, hconcludes, hshows⟩ | hnone
    · exact ⟨conclusion, hconcludes, fun _ hother => hconcludes.unique hother, hshows⟩
    · simp [turn, hnone.1] at hended
  · intro hpatient
    constructor
    · intro hnone
      rcases hsettled with ⟨conclusion, -, hshows⟩ | hsilent
      · exact absurd (hshows.reply.symm.trans hnone) (by simp)
      · exact hsilent.2 hpatient
    · intro hsilent
      rcases hsettled with ⟨conclusion, hconcludes, -⟩ | hnone
      · exact absurd hsilent hconcludes.not_silent
      · exact hnone.1

/-- A login that is cancelled while it dials, and one that is accepted. -/
def cancelledThenAccepted : List Call := [
  .login (.new "ws://gateway" 7 8 "secret") ⟨0, .never⟩ 1700000000000 1000,
  .login (.new "ws://gateway" 7 8 "secret")
    ⟨20, .opened { write := fun _ => .ok (), replies := fun _ => [.message []] }⟩
    1700000000000 3600000]

/-- A peer that answers the request with a code and then closes. -/
def refusingPeer : Link where
  write _ := .ok ()
  replies _ := [.message [24, 5, 34, 2, 110, 111], .closed none]

theorem login_refused_after_accepted :
    let credentials := Credentials.new "ws://gateway" 9 8 "other"
    let frame := (Session.signInFrame {} credentials 1700000000000).1
    let turn := ((new {}).run cancelledThenAccepted).login ⟨20, .opened refusingPeer⟩ 1700000000000
      3600000 credentials
    credentials.validate = .ok () ∧ turn.Shows [(1, .close)] 2 {
      result := .error (.rejected 5 "no")
      state := .failed (.rejected 5)
      inbox := some ⟨[.closed none], false, false⟩
      calls := [.send frame, .close]
      told := [.status true "connection established", .login false 5 "no"] } := by
  intro credentials frame turn
  have hvalid : credentials.validate = .ok () := by decide +kernel
  obtain ⟨hended, -⟩ := login_concludes_as_decided {} cancelledThenAccepted credentials hvalid
    ⟨20, .opened refusingPeer⟩ 1700000000000 3600000
  obtain ⟨conclusion, -, hunique, hshows⟩ := hended (by decide +kernel)
  have hpacket : Packet.decode [24, 5, 34, 2, 110, 111] = .ok ⟨0, 0, 5, "no", none⟩ := by
    decide +kernel
  have hdelay : 20 ≤ ({} : ClientSettings).connectTimeout.ticks := by decide
  have hheld : ((new {}).run cancelledThenAccepted).session.connection = some 1 := by
    decide +kernel
  have hlinks : ((new {}).run cancelledThenAccepted).links = 1 := by decide +kernel
  have hmessage : ("no" : String) ≠ "" := by decide +kernel
  have hrejected : refusingPeer.Concludes credentials frame 2 _ :=
    .rejected rfl rfl hpacket (by decide)
  rw [hlinks] at hunique hshows
  rw [hheld, ← hunique _ (.opened hdelay rfl hrejected)] at hshows
  simp only [if_neg hmessage] at hshows
  exact ⟨hvalid, hshows⟩

end Client

end GatewayLogin
