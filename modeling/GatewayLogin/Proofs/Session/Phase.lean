/-
Phases: where a session stands, together with all that it then holds.

A session has many optional fields, but few combinations of them ever occur.  A phase is one such
combination; `Session.At` says that a session is in it, and `Phase.Leads` lists every move between
phases.  Each operation on a session in a phase makes one of these moves
(`Session.perform_leads`), so what holds of all moves holds of all runs.
-/
import GatewayLogin.Session.Run

namespace GatewayLogin

/-- A login that was begun: the credentials handed in, and the attempt that was answered. -/
structure Login where
  credentials : Credentials
  attempt : ConnectAttempt
deriving Repr, DecidableEq

/-- Who a login asks to be signed in. -/
def Login.identity (login : Login) : Identity :=
  ⟨login.credentials.userId, login.credentials.deviceId⟩

/-- Where a session stands, with all that it then holds. -/
inductive Phase where
  | idle
  | dialing (login : Login)
  /-- The connection is open and nothing was sent over it. -/
  | opened (login : Login) (connection : ConnectionId)
  | waiting (login : Login) (connection : ConnectionId)
  | signedIn (login : Login) (connection : ConnectionId)
  | failed (reason : FailureReason)
  /-- The connection failed after the login was accepted.  The identity is still there. -/
  | lost (login : Login) (error : String)
deriving Repr, DecidableEq

namespace Phase

def state : Phase → SessionState
  | idle => .disconnected
  | dialing _ => .connecting
  | opened .. | signedIn .. => .connected
  | waiting .. => .awaitingResponse
  | failed reason => .failed reason
  | lost _ error => .failed (.transport error)

/-- The connection that is held in a phase. -/
def connection? : Phase → Option ConnectionId
  | opened _ connection | waiting _ connection | signedIn _ connection => some connection
  | _ => none

/-- The attempt that is waited for in a phase. -/
def timer? : Phase → Option ConnectAttempt
  | dialing login => some login.attempt
  | _ => none

/-- The credentials that are still to be sent in a phase. -/
def pending? : Phase → Option Credentials
  | dialing login | opened login _ => some login.credentials
  | _ => none

/-- Whose sign-in is on its way in a phase. -/
def inFlight? : Phase → Option Identity
  | waiting login _ => some login.identity
  | _ => none

/-- The identity that a session shows in a phase. -/
def identity? : Phase → Option Identity
  | signedIn login _ | lost login _ => some login.identity
  | _ => none

/-- The login that a phase goes back to. -/
def login? : Phase → Option Login
  | dialing login | opened login _ | waiting login _ | signedIn login _ | lost login _ =>
      some login
  | idle | failed _ => none

/-- What the move from one phase to the next takes: an operation and its reply. -/
inductive Leads : Phase → Operation → Reply → Phase → Prop where
  | refused {phase credentials fault} (h : credentials.validate = .error fault) :
      Leads phase (.startLogin credentials) (.started (.error fault)) phase
  | begun {phase credentials attempt} (h : credentials.validate = .ok ()) :
      Leads phase (.startLogin credentials) (.started (.ok attempt))
        (dialing ⟨credentials, attempt⟩)
  | opened {login connection} :
      Leads (dialing login) (.transportOpened login.attempt connection) (.taken true)
        (opened login connection)
  | openedLate {phase attempt connection} (h : phase.timer? ≠ some attempt) :
      Leads phase (.transportOpened attempt connection) (.taken false) phase
  | timedOut {login} :
      Leads (dialing login) (.timeoutElapsed login.attempt) (.taken true) (failed .connectTimeout)
  | timedOutLate {phase attempt} (h : phase.timer? ≠ some attempt) :
      Leads phase (.timeoutElapsed attempt) (.taken false) phase
  | unreached {login error} :
      Leads (dialing login) (.connectFailed login.attempt error) (.taken true)
        (failed (.connectFailed error))
  | unreachedLate {phase attempt error} (h : phase.timer? ≠ some attempt) :
      Leads phase (.connectFailed attempt error) (.taken false) phase
  | erroredDialing {login error} :
      Leads (dialing login) (.transportErrored error) (.taken true) (failed (.connectFailed error))
  | erroredOpened {login connection error} :
      Leads (opened login connection) (.transportErrored error) (.taken true)
        (failed (.transport error))
  | erroredWaiting {login connection error} :
      Leads (waiting login connection) (.transportErrored error) (.taken true)
        (failed (.transport error))
  | erroredSignedIn {login connection error} :
      Leads (signedIn login connection) (.transportErrored error) (.taken true) (lost login error)
  | erroredLate {phase error} (h : phase.state.isActive = false) :
      Leads phase (.transportErrored error) (.taken false) phase
  | sent {login connection clock write frame} (h : write frame = .ok ()) :
      Leads (opened login connection) (.sendSignIn clock write) (.sent (.ok frame))
        (waiting login connection)
  | unsent {login connection clock write frame fault} (h : write frame = .error fault) :
      Leads (opened login connection) (.sendSignIn clock write) (.sent (.error fault))
        (failed (.transport fault.message))
  | sentTwice {login connection clock write} :
      Leads (signedIn login connection) (.sendSignIn clock write)
        (.sent (.error (.invalidState "pending login attempt" SessionState.connected.message)))
        (signedIn login connection)
  | sentUnopened {phase clock write} (h : phase.state ≠ .connected) :
      Leads phase (.sendSignIn clock write) (.sent (.error .notOpen)) phase
  | accepted {login connection frame} (h : (Packet.receive frame).isSuccess = true) :
      Leads (waiting login connection) (.frameReceived frame)
        (.answered (some (Packet.receive frame))) (signedIn login connection)
  | rejected {login connection frame} (h : (Packet.receive frame).isSuccess = false) :
      Leads (waiting login connection) (.frameReceived frame)
        (.answered (some (Packet.receive frame))) (failed (.rejected (Packet.receive frame).code))
  | unsolicited {phase frame} (h : phase.state ≠ .awaitingResponse) :
      Leads phase (.frameReceived frame) (.answered none) phase
  | closed {phase reason} :
      Leads phase (.transportClosed reason) (.taken (phase.state != .disconnected)) idle
  | disconnected {phase} : Leads phase .disconnect .done idle

end Phase

namespace Session

/-- A session stands in a phase: it is in the state and holds what the phase says. -/
structure At (s : Session) (phase : Phase) : Prop where
  state : s.state = phase.state
  connection : s.connection = phase.connection?
  timer : s.timer = phase.timer?
  pending : s.pending = phase.pending?
  inFlight : s.inFlight = phase.inFlight?
  identity : s.identity = phase.identity?

variable {s : Session} {phase : Phase}

theorem new_at (settings : ClientSettings) : (new settings).At .idle :=
  ⟨rfl, rfl, rfl, rfl, rfl, rfl⟩

theorem At.counted (h : s.At phase) (metrics : Metrics) : At { s with metrics } phase :=
  ⟨h.state, h.connection, h.timer, h.pending, h.inFlight, h.identity⟩

/-- Only a session that dials waits for an attempt. -/
theorem At.isCurrent_iff (h : s.At phase) (attempt : ConnectAttempt) :
    s.isCurrent attempt = true ↔ ∃ login, phase = .dialing login ∧ login.attempt = attempt := by
  rw [isCurrent, h.state, h.timer]
  cases phase <;> simp [Phase.state, Phase.timer?]

theorem At.not_isCurrent (h : s.At phase) {attempt : ConnectAttempt}
    (hlate : ¬ s.isCurrent attempt = true) : phase.timer? ≠ some attempt := by
  intro htimer
  apply hlate
  rw [h.isCurrent_iff]
  cases phase with
  | dialing login => exact ⟨login, rfl, by simpa [Phase.timer?] using htimer⟩
  | _ => simp [Phase.timer?] at htimer

/-- Failing keeps the identity and nothing else. -/
theorem At.failing (h : s.At phase) (hidentity : phase.identity? = none) (reason : FailureReason) :
    (s.failing reason).1.At (.failed reason) :=
  ⟨rfl, rfl, rfl, rfl, rfl, h.identity.trans hidentity⟩

theorem startLogin_leads (h : s.At phase) (credentials : Credentials) :
    ∃ next, phase.Leads (.startLogin credentials) (.started (s.startLogin credentials).reply) next ∧
      (s.startLogin credentials).session.At next := by
  simp only [startLogin]
  split
  · rename_i fault hfault
    exact ⟨phase, .refused hfault, h⟩
  · rename_i hvalid
    exact ⟨_, .begun hvalid, ⟨rfl, rfl, rfl, rfl, rfl, rfl⟩⟩

theorem transportOpened_leads (h : s.At phase) (attempt : ConnectAttempt)
    (connection : ConnectionId) :
    ∃ next, phase.Leads (.transportOpened attempt connection)
        (.taken (s.transportOpened attempt connection).reply) next ∧
      (s.transportOpened attempt connection).session.At next := by
  simp only [transportOpened]
  split
  · rename_i hcurrent
    obtain ⟨login, rfl, rfl⟩ := (h.isCurrent_iff attempt).mp hcurrent
    exact ⟨.opened login connection, .opened,
      ⟨rfl, rfl, rfl, h.pending, h.inFlight, h.identity⟩⟩
  · rename_i hlate
    exact ⟨phase, .openedLate (h.not_isCurrent hlate), h⟩

theorem timeoutElapsed_leads (h : s.At phase) (attempt : ConnectAttempt) :
    ∃ next, phase.Leads (.timeoutElapsed attempt) (.taken (s.timeoutElapsed attempt).reply) next ∧
      (s.timeoutElapsed attempt).session.At next := by
  simp only [timeoutElapsed]
  split
  · rename_i hcurrent
    obtain ⟨login, rfl, rfl⟩ := (h.isCurrent_iff attempt).mp hcurrent
    exact ⟨_, .timedOut, (h.counted _).failing rfl _⟩
  · rename_i hlate
    exact ⟨phase, .timedOutLate (h.not_isCurrent hlate), h⟩

theorem connectFailed_leads (h : s.At phase) (attempt : ConnectAttempt) (error : String) :
    ∃ next, phase.Leads (.connectFailed attempt error)
        (.taken (s.connectFailed attempt error).reply) next ∧
      (s.connectFailed attempt error).session.At next := by
  simp only [connectFailed]
  split
  · rename_i hcurrent
    obtain ⟨login, rfl, rfl⟩ := (h.isCurrent_iff attempt).mp hcurrent
    exact ⟨_, .unreached, (h.counted _).failing rfl _⟩
  · rename_i hlate
    exact ⟨phase, .unreachedLate (h.not_isCurrent hlate), h⟩

theorem transportErrored_leads (h : s.At phase) (error : String) :
    ∃ next, phase.Leads (.transportErrored error) (.taken (s.transportErrored error).reply) next ∧
      (s.transportErrored error).session.At next := by
  simp only [transportErrored, h.state]
  cases phase with
  | idle => exact ⟨_, .erroredLate rfl, h⟩
  | dialing login => exact ⟨_, .erroredDialing, (h.counted _).failing rfl _⟩
  | opened login connection => exact ⟨_, .erroredOpened, h.failing rfl _⟩
  | waiting login connection => exact ⟨_, .erroredWaiting, h.failing rfl _⟩
  | signedIn login connection =>
      -- The one failure that finds an identity, which stays.
      exact ⟨.lost login error, .erroredSignedIn, ⟨rfl, rfl, rfl, rfl, rfl, h.identity⟩⟩
  | failed reason => exact ⟨_, .erroredLate rfl, h⟩
  | lost login error => exact ⟨_, .erroredLate rfl, h⟩

theorem sendSignIn_leads (h : s.At phase) (clock : UInt64) (write : Frame → Except Fault Unit) :
    ∃ next, phase.Leads (.sendSignIn clock write) (.sent (s.sendSignIn clock write).reply) next ∧
      (s.sendSignIn clock write).session.At next := by
  cases phase with
  | opened login connection =>
      simp only [sendSignIn, h.state, h.pending, h.connection, Phase.state, Phase.pending?,
        Phase.connection?, ne_eq, not_true_eq_false, if_false]
      split
      · rename_i fault hwrite
        exact ⟨_, .unsent hwrite, ⟨rfl, rfl, rfl, rfl, rfl, h.identity⟩⟩
      · rename_i hwrite
        exact ⟨_, .sent hwrite, ⟨rfl, rfl, h.timer, rfl, rfl, h.identity⟩⟩
  | signedIn login connection =>
      simp only [sendSignIn, h.state, h.pending, Phase.state, Phase.pending?, ne_eq,
        not_true_eq_false, if_false]
      exact ⟨_, .sentTwice, h⟩
  | _ =>
      have hstate : s.state ≠ .connected := by simp [h.state, Phase.state]
      simp only [sendSignIn, if_pos hstate]
      exact ⟨_, .sentUnopened (h.state ▸ hstate), h⟩

theorem frameReceived_leads (h : s.At phase) (frame : Frame) :
    ∃ next, phase.Leads (.frameReceived frame) (.answered (s.frameReceived frame).reply) next ∧
      (s.frameReceived frame).session.At next := by
  cases phase with
  | waiting login connection =>
      simp only [frameReceived, h.state, Phase.state, ne_eq, not_true_eq_false, if_false]
      cases hsuccess : (Packet.receive frame).isSuccess with
      | true =>
          exact ⟨_, .accepted hsuccess, ⟨rfl, h.connection, h.timer, h.pending, rfl, h.inFlight⟩⟩
      | false =>
          exact ⟨_, .rejected hsuccess, ⟨rfl, rfl, h.timer, h.pending, rfl, h.identity⟩⟩
  | _ =>
      have hstate : s.state ≠ .awaitingResponse := by simp [h.state, Phase.state]
      simp only [frameReceived, if_pos hstate]
      exact ⟨_, .unsolicited (h.state ▸ hstate), h.counted _⟩

/-- Every operation on a session in a phase makes one of the moves of `Phase.Leads`. -/
theorem perform_leads (h : s.At phase) (operation : Operation) :
    ∃ next, phase.Leads operation (s.perform operation).reply next ∧
      (s.perform operation).session.At next := by
  cases operation with
  | startLogin credentials => exact startLogin_leads h credentials
  | transportOpened attempt connection => exact transportOpened_leads h attempt connection
  | timeoutElapsed attempt => exact timeoutElapsed_leads h attempt
  | connectFailed attempt error => exact connectFailed_leads h attempt error
  | transportErrored error => exact transportErrored_leads h error
  | sendSignIn clock write => exact sendSignIn_leads h clock write
  | frameReceived frame => exact frameReceived_leads h frame
  | transportClosed reason =>
      refine ⟨.idle, ?_, ⟨rfl, rfl, rfl, rfl, rfl, rfl⟩⟩
      simp only [perform, Step.map, transportClosed, h.state]
      exact .closed
  | disconnect => exact ⟨.idle, .disconnected, ⟨rfl, rfl, rfl, rfl, rfl, rfl⟩⟩

theorem startLogin_at {credentials : Credentials} {attempt : ConnectAttempt}
    (h : (s.startLogin credentials).reply = .ok attempt) :
    (s.startLogin credentials).session.At (.dialing ⟨credentials, attempt⟩) := by
  simp only [startLogin] at h ⊢
  split at h
  · cases h
  · cases h
    exact ⟨rfl, rfl, rfl, rfl, rfl, rfl⟩

theorem At.transportOpened {login : Login} (h : s.At (.dialing login)) (connection : ConnectionId) :
    (s.transportOpened login.attempt connection).reply = true ∧
      (s.transportOpened login.attempt connection).session.At (.opened login connection) := by
  have hcurrent : s.isCurrent login.attempt = true :=
    (h.isCurrent_iff _).mpr ⟨login, rfl, rfl⟩
  simp only [Session.transportOpened, hcurrent, if_true, true_and]
  exact ⟨rfl, rfl, rfl, h.pending, h.inFlight, h.identity⟩

/-- What became of a request shows in the reply. -/
theorem At.sendSignIn {login : Login} {connection : ConnectionId}
    (h : s.At (.opened login connection)) (clock : UInt64) (write : Frame → Except Fault Unit) :
    match (s.sendSignIn clock write).reply with
    | .ok _ => (s.sendSignIn clock write).session.At (.waiting login connection)
    | .error fault =>
        (s.sendSignIn clock write).session.At (.failed (.transport fault.message)) := by
  obtain ⟨next, hleads, hnext⟩ := sendSignIn_leads h clock write
  generalize (s.sendSignIn clock write).reply = reply at hleads ⊢
  cases hleads with
  | sent => exact hnext
  | unsent => exact hnext
  | sentUnopened hstate => exact absurd rfl hstate

/-- A frame that is waited for concludes the login. -/
theorem At.frameReceived {login : Login} {connection : ConnectionId}
    (h : s.At (.waiting login connection)) (frame : Frame) :
    (s.frameReceived frame).reply = some (Packet.receive frame) ∧
      (s.frameReceived frame).session.At
        (if (Packet.receive frame).isSuccess then .signedIn login connection
          else .failed (.rejected (Packet.receive frame).code)) := by
  obtain ⟨next, hleads, hnext⟩ := frameReceived_leads h frame
  generalize (s.frameReceived frame).reply = reply at hleads ⊢
  cases hleads with
  | accepted hsuccess => exact ⟨rfl, by rwa [hsuccess, if_pos rfl]⟩
  | rejected hsuccess => exact ⟨rfl, by rwa [hsuccess]⟩
  | unsolicited hstate => exact absurd rfl hstate

theorem At.transportErrored {login : Login} {connection : ConnectionId}
    (h : s.At (.waiting login connection)) (error : String) :
    (s.transportErrored error).session.At (.failed (.transport error)) := by
  obtain ⟨next, hleads, hnext⟩ := transportErrored_leads h error
  generalize (s.transportErrored error).reply = reply at hleads
  cases hleads with
  | erroredWaiting => exact hnext
  | erroredLate hidle => simp [Phase.state, SessionState.isActive] at hidle

end Session

end GatewayLogin
