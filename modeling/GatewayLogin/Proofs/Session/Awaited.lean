/-
What the operations of a login come to in the phase in which they are awaited.

There each operation leads to a known phase, makes known calls and tells known notifications, as its
input decides; `Step.Yields` puts the three together.
-/
import GatewayLogin.Proofs.Session.Custody
import GatewayLogin.Proofs.Session.Told

namespace GatewayLogin

/-- An operation leads to a phase, makes calls, and tells notifications. -/
structure Step.Yields {α : Type} (step : Step α) (next : Phase)
    (calls : List (ConnectionId × ConnectionCall)) (told : List Notification) : Prop where
  phase : step.session.At next
  calls : Effect.calls step.effects = calls
  told : Effect.notifications step.effects = told

namespace Session

variable {s : Session} {login : Login} {connection : ConnectionId}

/-- Beginning a login closes what was held, and tells nothing. -/
theorem startLogin_yields (s : Session) {credentials : Credentials}
    (hvalid : credentials.validate = .ok ()) :
    ∃ attempt, (s.startLogin credentials).reply = .ok attempt ∧
      attempt.timeout = s.settings.connectTimeout ∧
      (s.startLogin credentials).Yields (.dialing ⟨credentials, attempt⟩)
        (s.connection.toList.map fun held => (held, .close)) [] := by
  have hreply : (s.startLogin credentials).reply =
      .ok ⟨s.attempts + 1, s.settings.connectTimeout⟩ := by
    simp only [startLogin, hvalid]
  refine ⟨_, hreply, rfl, startLogin_at hreply, ?_, ?_⟩
  · simp [startLogin, hvalid]
  · simp [startLogin, hvalid]

theorem At.isCurrent (h : s.At (.dialing login)) : s.isCurrent login.attempt = true :=
  (h.isCurrent_iff _).mpr ⟨login, rfl, rfl⟩

theorem At.transportOpened_yields (h : s.At (.dialing login)) (connection : ConnectionId) :
    (s.transportOpened login.attempt connection).Yields (.opened login connection) []
      [.status true "connection established"] := by
  refine ⟨(h.transportOpened connection).2, ?_, ?_⟩
  · simp [Session.transportOpened, h.isCurrent, h.connection, Phase.connection?]
  · simp [Session.transportOpened, h.isCurrent]

theorem At.timeoutElapsed_yields (h : s.At (.dialing login)) :
    (s.timeoutElapsed login.attempt).Yields (.failed .connectTimeout) []
      [.status false FailureReason.connectTimeout.message] := by
  simp only [timeoutElapsed, h.isCurrent, if_true]
  exact ⟨(h.counted _).failing rfl _, by simp [h.connection, Phase.connection?], by simp⟩

theorem At.connectFailed_yields (h : s.At (.dialing login)) (error : String) :
    (s.connectFailed login.attempt error).Yields (.failed (.connectFailed error)) []
      [.status false (FailureReason.connectFailed error).message] := by
  simp only [connectFailed, h.isCurrent, if_true]
  exact ⟨(h.counted _).failing rfl _, by simp [h.connection, Phase.connection?], by simp⟩

/-- A write that is taken leaves the session waiting, with the id of the request. -/
theorem At.sent_yields (h : s.At (.opened login connection)) (clock : UInt64)
    (write : Frame → Except Fault Unit)
    (hwrite : write (signInFrame s.settings login.credentials clock).1 = .ok ()) :
    let frame := (signInFrame s.settings login.credentials clock).1
    (s.sendSignIn clock write).reply = .ok frame ∧
      (s.sendSignIn clock write).Yields (.waiting login connection)
        [(connection, .send frame)] [] ∧
      (s.sendSignIn clock write).session.requestId =
        (signInFrame s.settings login.credentials clock).2 := by
  have hnext := h.sendSignIn clock write
  simp only [Session.sendSignIn, h.state, h.pending, h.connection, Phase.state, Phase.pending?,
    Phase.connection?, ne_eq, not_true_eq_false, if_false, hwrite, true_and, and_true] at hnext ⊢
  exact ⟨hnext, rfl, rfl⟩

/-- A write that is refused was tried once, and the connection is closed. -/
theorem At.unsent_yields (h : s.At (.opened login connection)) (clock : UInt64)
    (write : Frame → Except Fault Unit) (fault : Fault)
    (hwrite : write (signInFrame s.settings login.credentials clock).1 = .error fault) :
    let frame := (signInFrame s.settings login.credentials clock).1
    (s.sendSignIn clock write).reply = .error fault ∧
      (s.sendSignIn clock write).Yields (.failed (.transport fault.message))
        [(connection, .send frame), (connection, .close)]
        [.status false (FailureReason.transport fault.message).message] := by
  have hnext := h.sendSignIn clock write
  simp only [Session.sendSignIn, h.state, h.pending, h.connection, Phase.state, Phase.pending?,
    Phase.connection?, ne_eq, not_true_eq_false, if_false, hwrite, true_and] at hnext ⊢
  exact ⟨hnext, by simp, by simp⟩

/-- The packet of a frame decides. -/
theorem At.frameReceived_yields (h : s.At (.waiting login connection)) (frame : Frame) :
    (s.frameReceived frame).reply = some (Packet.receive frame) ∧
      if (Packet.receive frame).isSuccess then
        (s.frameReceived frame).Yields (.signedIn login connection) []
          [(Packet.receive frame).notice]
      else
        (s.frameReceived frame).Yields (.failed (.rejected (Packet.receive frame).code))
          [(connection, .close)] [(Packet.receive frame).notice] := by
  obtain ⟨hreply, hnext⟩ := h.frameReceived frame
  have htold := frameReceived_tells s (.waiting login connection) frame
  rw [hreply] at htold
  refine ⟨hreply, ?_⟩
  cases hsuccess : (Packet.receive frame).isSuccess with
  | true =>
      rw [hsuccess] at hnext
      refine ⟨hnext, ?_, htold⟩
      simp [Session.frameReceived, h.state, Phase.state, hsuccess]
  | false =>
      rw [hsuccess] at hnext
      refine ⟨hnext, ?_, htold⟩
      simp [Session.frameReceived, h.state, Phase.state, hsuccess, h.connection, Phase.connection?]

theorem At.transportErrored_yields (h : s.At (.waiting login connection)) (error : String) :
    (s.transportErrored error).Yields (.failed (.transport error)) [(connection, .close)]
      [.status false (FailureReason.transport error).message] := by
  refine ⟨h.transportErrored error, ?_, ?_⟩
  · simp [Session.transportErrored, h.state, Phase.state, h.connection, Phase.connection?]
  · simp [Session.transportErrored, h.state, Phase.state]

theorem At.transportClosed_yields (h : s.At (.waiting login connection))
    (reason : Option String) :
    (s.transportClosed reason).Yields .idle [(connection, .drop)]
      [.status false
        (if reason.getD "" = "" then "connection closed" else reason.getD "")] := by
  refine ⟨⟨rfl, rfl, rfl, rfl, rfl, rfl⟩, ?_, ?_⟩
  · simp only [transportClosed, Effect.calls_append, calls_dropping, h.connection, h.state,
      Phase.connection?, Phase.state]
    rfl
  · exact perform_tells h (.transportClosed reason)

end Session

end GatewayLogin
