/-
The request that a session sends, and how long its id is remembered.

A request goes over the connection that was opened for the latest login (`Session.run_linked`), its
frame gives a receiver the credentials of that login (`Session.signInFrame_presents`), and its id
stays until the next login begins (`Session.run_requestId`).  Main statement:
`Session.sent_frame_presents_latest_login`.
-/
import GatewayLogin.Proofs.Packet.RoundTrip
import GatewayLogin.Proofs.Session.Awaited
import GatewayLogin.Proofs.SignInRequest.RoundTrip

namespace GatewayLogin

/-- The request that presents credentials. -/
def Credentials.request (credentials : Credentials) : SignInRequest :=
  ⟨credentials.deviceId, credentials.userId, credentials.token⟩

namespace Phase

/-- The connection that is held in a phase, with the login for which it was opened. -/
def link? : Phase → Option (Login × ConnectionId)
  | opened login connection | waiting login connection | signedIn login connection =>
      some (login, connection)
  | _ => none

/-- A connection that is held was held before, or has just been taken up by the login that
dialed. -/
theorem Leads.link_cases {phase next : Phase} {operation : Operation} {reply : Reply}
    {login : Login} {connection : ConnectionId} (h : phase.Leads operation reply next)
    (hlink : next.link? = some (login, connection)) :
    (phase.link? = some (login, connection) ∧ operation.begun? reply = none) ∨
      (phase = dialing login ∧ operation = .transportOpened login.attempt connection ∧
        reply = .taken true) := by
  cases h with
  | opened =>
      obtain ⟨rfl, rfl⟩ := Prod.mk.inj (Option.some.inj hlink)
      exact .inr ⟨rfl, rfl, rfl⟩
  | accepted hsuccess =>
      refine .inl ⟨hlink, ?_⟩
      simp [Operation.begun?, Operation.milestone?, hsuccess, Milestone.login?]
  | refused | openedLate | timedOutLate | unreachedLate | erroredLate | sent | sentTwice
  | sentUnopened | unsolicited => exact .inl ⟨hlink, rfl⟩
  | _ => simp [link?] at hlink

end Phase

namespace Session

variable {s : Session} {phase : Phase}

/-- Among the operations is the one by which the connection was taken up for the login, then the
latest, and none behind it begins another. -/
def OpenedFor (settings : ClientSettings) (operations : List Operation) (login : Login)
    (connection : ConnectionId) : Prop :=
  ∃ before after, operations = before ++ .transportOpened login.attempt connection :: after ∧
    latestLogin? ((new settings).milestones before) = some login ∧
    (((new settings).run before).transportOpened login.attempt connection).reply = true ∧
    (((new settings).run before).transportOpened login.attempt connection).session.logins after = []

theorem OpenedFor.concat {settings : ClientSettings} {before : List Operation} {login : Login}
    {connection : ConnectionId} (h : OpenedFor settings before login connection)
    {operation : Operation}
    (hbegun : operation.begun? (((new settings).run before).perform operation).reply = none) :
    OpenedFor settings (before ++ [operation]) login connection := by
  obtain ⟨first, after, rfl, hlatest, htaken, hnone⟩ := h
  refine ⟨first, after ++ [operation], by simp, hlatest, htaken, ?_⟩
  have hbegun' : operation.begun?
      (((((new settings).run first).transportOpened login.attempt connection).session.run
        after).perform operation).reply = none := by
    rw [run_append] at hbegun
    exact hbegun
  rw [logins_append, hnone, logins_cons, hbegun']
  rfl

/-- Every run ends in a phase that fits its milestones, and in which a connection that is held is
the one that was opened for the latest login. -/
theorem run_linked (settings : ClientSettings) (operations : List Operation) :
    ∃ phase, ((new settings).run operations).At phase ∧
      phase.Follows ((new settings).milestones operations) ∧
      ∀ login connection, phase.link? = some (login, connection) →
        OpenedFor settings operations login connection := by
  induction operations using List.reverseRecOn with
  | nil => exact ⟨.idle, new_at settings, Phase.idle_follows _, by simp [Phase.link?]⟩
  | append_singleton before operation ih =>
      obtain ⟨phase, hat, hfollows, hopened⟩ := ih
      obtain ⟨next, hleads, hnext⟩ := perform_leads hat operation
      rw [run_concat, milestones_concat]
      refine ⟨next, hnext, hleads.follows hfollows, ?_⟩
      intro login connection hlink
      rcases hleads.link_cases hlink with ⟨hheld, hbegun⟩ | ⟨rfl, rfl, htaken⟩
      · exact (hopened login connection hheld).concat hbegun
      · exact ⟨before, [], rfl, hfollows.login login rfl, Reply.taken.inj htaken, rfl⟩

/-- What a receiver recovers from a frame: the request, by itself or as the data of a packet that
has the clock for its request id. -/
def Presents (settings : ClientSettings) (request : SignInRequest) (clock : UInt64)
    (frame : Frame) : Prop :=
  if settings.wrapInEnvelope then
    ∃ data, Packet.decode frame = .ok ⟨settings.signInCommand, clock, 0, "", some data⟩ ∧
      SignInRequest.decode data = .ok request
  else SignInRequest.decode frame = .ok request

theorem signInFrame_presents (settings : ClientSettings) {credentials : Credentials}
    (h : credentials.request.Sized) (clock : UInt64) :
    Presents settings credentials.request clock (signInFrame settings credentials clock).1 := by
  by_cases hwrap : settings.wrapInEnvelope
  · have hempty : (Text.utf8 "").length < 2 ^ 64 := by decide
    have hsized : Packet.Sized
        ⟨settings.signInCommand, clock, 0, "", some credentials.request.encode⟩ := ⟨hempty, h⟩
    have hnormal : Packet.normal
        ⟨settings.signInCommand, clock, 0, "", some credentials.request.encode⟩ =
        ⟨settings.signInCommand, clock, 0, "", some credentials.request.encode⟩ := by
      simp [Packet.normal, Option.filter, SignInRequest.encode_ne_nil]
    have hread := Packet.decode_encode hsized
    rw [hnormal] at hread
    simp only [Presents, signInFrame, hwrap, if_true]
    exact ⟨_, hread, SignInRequest.decode_encode h⟩
  · simp only [Presents, signInFrame, hwrap]
    exact SignInRequest.decode_encode h

/-- A request is sent only over a connection over which nothing was sent. -/
theorem At.opened_of_sent (h : s.At phase) {clock : UInt64} {write : Frame → Except Fault Unit}
    {frame : Frame} (hsent : (s.sendSignIn clock write).reply = .ok frame) :
    ∃ login connection, phase = .opened login connection := by
  obtain ⟨next, hleads, -⟩ := sendSignIn_leads h clock write
  rw [hsent] at hleads
  cases hleads with
  | sent => exact ⟨_, _, rfl⟩

/-- What is sent is written to the connection, and nothing is owed any more. -/
theorem At.sent {login : Login} {connection : ConnectionId} (h : s.At (.opened login connection))
    {clock : UInt64} {write : Frame → Except Fault Unit} {frame : Frame}
    (hsent : (s.sendSignIn clock write).reply = .ok frame) :
    frame = (signInFrame s.settings login.credentials clock).1 ∧ write frame = .ok () ∧
      Effect.calls (s.sendSignIn clock write).effects = [(connection, .send frame)] ∧
      (s.sendSignIn clock write).session.pending = none ∧
      (s.sendSignIn clock write).session.requestId =
        (signInFrame s.settings login.credentials clock).2 := by
  cases hwrite : write (signInFrame s.settings login.credentials clock).1 with
  | error fault =>
      obtain ⟨hrefused, -⟩ := h.unsent_yields clock write fault hwrite
      cases hrefused.symm.trans hsent
  | ok =>
      obtain ⟨hreply, hyields, hrequestId⟩ := h.sent_yields clock write hwrite
      cases hreply.symm.trans hsent
      exact ⟨rfl, hwrite, hyields.calls, hyields.phase.pending, hrequestId⟩

/-- Without a new login nothing is owed anew, and the request id stays. -/
theorem perform_requestId (s : Session) (hpending : s.pending = none) {operation : Operation}
    (hbegun : operation.begun? (s.perform operation).reply = none) :
    (s.perform operation).session.pending = none ∧
      (s.perform operation).session.requestId = s.requestId := by
  cases operation with
  | startLogin credentials =>
      simp only [perform, Step.map, startLogin] at hbegun ⊢
      split at hbegun
      · rename_i hinvalid
        exact ⟨hpending, rfl⟩
      · simp [Operation.begun?, Operation.milestone?, Milestone.login?] at hbegun
  | sendSignIn clock write =>
      simp only [perform, Step.map, sendSignIn, hpending]
      split
      · exact ⟨hpending, rfl⟩
      · exact ⟨hpending, rfl⟩
  | transportOpened | timeoutElapsed | connectFailed | transportErrored | frameReceived =>
      simp only [perform, Step.map, transportOpened, timeoutElapsed, connectFailed,
        transportErrored, frameReceived]
      -- Every branch keeps what is pending or clears it.
      repeat' split
      all_goals first | exact ⟨hpending, rfl⟩ | exact ⟨rfl, rfl⟩
  | transportClosed | disconnect => exact ⟨rfl, rfl⟩

theorem run_requestId (s : Session) (hpending : s.pending = none) {operations : List Operation}
    (hbegun : s.logins operations = []) : (s.run operations).requestId = s.requestId := by
  induction operations generalizing s with
  | nil => rfl
  | cons operation rest ih =>
      rw [logins_cons, List.append_eq_nil_iff] at hbegun
      obtain ⟨hnext, hsame⟩ := s.perform_requestId hpending (by simpa using hbegun.1)
      exact (ih _ hnext hbegun.2).trans hsame

/-- A request that is sent is written to the connection that was opened for the latest login, as the
frame that is answered.  Provided that its length is a word, a receiver of the frame recovers the
credentials of that login, within a packet with the clock for its request id if so set.  The session
remembers that id, or that there is none, until another login begins, whatever else is done. -/
theorem sent_frame_presents_latest_login (settings : ClientSettings) (before : List Operation)
    (clock : UInt64) (write : Frame → Except Fault Unit) (frame : Frame)
    (hsent : (((new settings).run before).sendSignIn clock write).reply = .ok frame) :
    ∃ login connection,
      latestLogin? ((new settings).milestones before) = some login ∧
      OpenedFor settings before login connection ∧
      write frame = .ok () ∧
      Effect.calls (((new settings).run before).sendSignIn clock write).effects =
        [(connection, .send frame)] ∧
      (login.credentials.request.Sized →
        Presents settings login.credentials.request clock frame) ∧
      ∀ after, (((new settings).run before).sendSignIn clock write).session.logins after = [] →
        ((new settings).run (before ++ .sendSignIn clock write :: after)).requestId =
          if settings.wrapInEnvelope then some clock else none := by
  obtain ⟨phase, hat, hfollows, hopened⟩ := run_linked settings before
  obtain ⟨login, connection, rfl⟩ := hat.opened_of_sent hsent
  obtain ⟨rfl, hwrite, hcalls, hpending, hrequestId⟩ := hat.sent hsent
  have hsettings := run_settings (new settings) before
  refine ⟨login, connection, hfollows.login login rfl, hopened login connection rfl, hwrite,
    hcalls, ?_, ?_⟩
  · intro hsized
    rw [hsettings]
    exact signInFrame_presents settings hsized clock
  · intro after hnone
    have hrun : (new settings).run (before ++ .sendSignIn clock write :: after) =
        (((new settings).run before).sendSignIn clock write).session.run after := by
      rw [run_append]
      rfl
    rw [hrun, run_requestId _ hpending hnone, hrequestId, hsettings]
    by_cases hwrap : settings.wrapInEnvelope <;> simp [signInFrame, hwrap, new]

/-- A login, a refused one between its start and its connection, and the connection. -/
def openedPastRefusal : List Operation := [
  .startLogin ⟨"ws://gateway", 7, 8, "secret"⟩,
  .startLogin ⟨"ws://gateway", 0, 8, "other"⟩,
  .transportOpened ⟨1, .ofSeconds 5⟩ 1]

theorem sent_past_refusal_presents_first_login :
    let s := (new {}).run openedPastRefusal
    let frame := (signInFrame {} ⟨"ws://gateway", 7, 8, "secret"⟩ 1700000000000).1
    (s.sendSignIn 1700000000000 fun _ => .ok ()).reply = .ok frame ∧
      Presents {} ⟨8, 7, "secret"⟩ 1700000000000 frame ∧
      ((new {}).run (openedPastRefusal ++ [.sendSignIn 1700000000000 fun _ => .ok (),
        .startLogin ⟨"ws://gateway", 7, 0, "other"⟩, .disconnect])).requestId =
          some 1700000000000 := by
  intro s frame
  have hsent : (s.sendSignIn 1700000000000 fun _ => .ok ()).reply = .ok frame := by
    decide +kernel
  obtain ⟨login, connection, hlatest, -, -, -, hpresents, hrequestId⟩ :=
    sent_frame_presents_latest_login {} openedPastRefusal 1700000000000 (fun _ => .ok ()) frame
      hsent
  have hlogin : latestLogin? ((new {}).milestones openedPastRefusal) =
      some ⟨⟨"ws://gateway", 7, 8, "secret"⟩, ⟨1, .ofSeconds 5⟩⟩ := by decide +kernel
  obtain rfl := Option.some.inj (hlatest.symm.trans hlogin)
  have hlength : (SignInRequest.encode ⟨8, 7, "secret"⟩).length < 2 ^ 64 := by decide +kernel
  exact ⟨hsent, hpresents hlength,
    hrequestId [.startLogin ⟨"ws://gateway", 7, 0, "other"⟩, .disconnect] (by decide +kernel)⟩

end Session

end GatewayLogin
