/-
What the user is told by one operation.

The phase, the operation and its reply settle what is told: nothing by what is ignored or goes on,
and one notification by whatever comes up, goes away or is concluded.  `Phase.tells` lists this, and
every operation on a session in a phase tells just that (`Session.perform_tells`).
-/
import GatewayLogin.Proofs.Session.Phase

namespace GatewayLogin

/-- What the user is told when a packet concludes a login. -/
def Packet.notice (packet : Packet) : Notification :=
  if packet.code = 0 then
    .login true 0 (if packet.message = "" then "login succeeded" else packet.message)
  else .login false packet.code (if packet.message = "" then "login failed" else packet.message)

namespace Phase

/-- Why a session fails when the transport does. -/
def failure (phase : Phase) (error : String) : FailureReason :=
  match phase with
  | dialing _ => .connectFailed error
  | _ => .transport error

/-- Whether nothing was sent yet over an open connection. -/
def isOpened : Phase → Bool
  | opened .. => true
  | _ => false

/-- What the user is told by an operation with a reply. -/
def tells (phase : Phase) : Operation → Reply → List Notification
  | .startLogin _, .started (.error _) => [.status false "incomplete login information"]
  | .transportOpened .., .taken true => [.status true "connection established"]
  | .timeoutElapsed _, .taken true => [.status false FailureReason.connectTimeout.message]
  | .connectFailed _ error, .taken true =>
      [.status false (FailureReason.connectFailed error).message]
  | .transportErrored error, .taken true => [.status false (phase.failure error).message]
  | .sendSignIn .., .sent (.error fault) =>
      if phase.isOpened then [.status false (FailureReason.transport fault.message).message]
      else []
  | .frameReceived _, .answered (some packet) => [packet.notice]
  | .transportClosed reason, _ =>
      if phase.state.isActive then
        [.status false
          (if reason.getD "" = "" then "connection closed" else reason.getD "")]
      else []
  | .disconnect, _ => [.status false "disconnected"]
  | _, _ => []

end Phase

namespace Effect

@[simp] theorem notifications_nil : notifications [] = [] := rfl

@[simp] theorem notifications_call_cons (connection : ConnectionId) (made : ConnectionCall)
    (rest : List Effect) :
    notifications (.call connection made :: rest) = notifications rest := rfl

@[simp] theorem notifications_notify_cons (notification : Notification) (rest : List Effect) :
    notifications (.notify notification :: rest) = notification :: notifications rest := rfl

@[simp] theorem notifications_log_cons (entry : LogEntry) (rest : List Effect) :
    notifications (.log entry :: rest) = notifications rest := rfl

@[simp] theorem notifications_append (before after : List Effect) :
    notifications (before ++ after) = notifications before ++ notifications after :=
  List.filterMap_append

end Effect

namespace Session

variable {s : Session} {phase : Phase}

@[simp] theorem notifications_closing (s : Session) : Effect.notifications s.closing = [] := by
  cases h : s.connection <;> simp [closing, h]

@[simp] theorem notifications_dropping (s : Session) : Effect.notifications s.dropping = [] := by
  cases h : s.connection <;> simp [dropping, h]

@[simp] theorem notifications_failing (s : Session) (reason : FailureReason) :
    Effect.notifications (s.failing reason).2 = [.status false reason.message] := by
  simp [failing]

@[simp] theorem notifications_unreadableEntries (frame : Frame) :
    Effect.notifications (unreadableEntries frame) = [] := by
  unfold unreadableEntries
  split <;> rfl

theorem nonEmptyOr_eq (fallback message : String) :
    nonEmptyOr fallback message = if message = "" then fallback else message := by
  simp only [nonEmptyOr, String.isEmpty_iff]

theorem transportErrored_tells (h : s.At phase) (error : String) :
    Effect.notifications (s.transportErrored error).effects =
      phase.tells (.transportErrored error) (.taken (s.transportErrored error).reply) := by
  simp only [transportErrored, h.state]
  cases phase with
  | dialing | opened | waiting | signedIn => exact notifications_failing _ _
  | idle | failed | lost => rfl

theorem sendSignIn_tells (h : s.At phase) (clock : UInt64) (write : Frame → Except Fault Unit) :
    Effect.notifications (s.sendSignIn clock write).effects =
      phase.tells (.sendSignIn clock write) (.sent (s.sendSignIn clock write).reply) := by
  cases phase with
  | opened login connection =>
      simp only [sendSignIn, h.state, h.pending, h.connection, Phase.state, Phase.pending?,
        Phase.connection?, ne_eq, not_true_eq_false, if_false]
      split
      · exact notifications_failing _ _
      · rfl
  | signedIn login connection =>
      simp only [sendSignIn, h.state, h.pending, Phase.state, Phase.pending?, ne_eq,
        not_true_eq_false, if_false]
      rfl
  | _ =>
      have hstate : s.state ≠ .connected := by simp [h.state, Phase.state]
      simp only [sendSignIn, if_pos hstate]
      rfl

theorem frameReceived_tells (s : Session) (phase : Phase) (frame : Frame) :
    Effect.notifications (s.frameReceived frame).effects =
      phase.tells (.frameReceived frame) (.answered (s.frameReceived frame).reply) := by
  by_cases hwaits : s.state = .awaitingResponse
  · simp only [frameReceived, hwaits, ne_eq, not_true_eq_false, if_false]
    by_cases hcode : (Packet.receive frame).code = 0 <;>
      simp [Phase.tells, Packet.notice, Packet.isSuccess, hcode, nonEmptyOr_eq]
  · simp only [frameReceived, if_pos hwaits]
    rfl

/-- Every operation on a session in a phase tells what `Phase.tells` says. -/
theorem perform_tells (h : s.At phase) (operation : Operation) :
    Effect.notifications (s.perform operation).effects =
      phase.tells operation (s.perform operation).reply := by
  cases operation with
  | startLogin credentials =>
      simp only [perform, Step.map, startLogin]
      split
      · rfl
      · simp [Phase.tells]
  | transportOpened | timeoutElapsed | connectFailed =>
      simp only [perform, Step.map, transportOpened, timeoutElapsed, connectFailed]
      split <;> simp [Phase.tells]
  | transportErrored error => exact transportErrored_tells h error
  | sendSignIn clock write => exact sendSignIn_tells h clock write
  | frameReceived frame => exact frameReceived_tells s phase frame
  | transportClosed reason =>
      simp only [perform, Step.map, transportClosed, h.state, Phase.tells, nonEmptyOr_eq]
      split <;> simp
  | disconnect => simp [perform, Step.map, disconnect, Phase.tells]

end Session

end GatewayLogin
