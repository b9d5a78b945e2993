/-
Custody: what one operation does with the connection that a session holds.

A session takes a connection only while it holds none, sends over it only what it still owes, and
lets it go with one last call.  `Custody.Moves` lists all that an operation can do in this respect,
with the calls it makes, and every operation on a session in a phase makes one of these moves
(`Session.perform_moves`).
-/
import GatewayLogin.Proofs.Session.Reachable

namespace GatewayLogin

/-- The connection that an operation hands over. -/
def Operation.handedOver? : Operation → Option ConnectionId
  | .transportOpened _ connection => some connection
  | _ => none

/-- How a session gives up the connection that it holds: the operation and its reply, and the last
call on the connection. -/
inductive GivesUp : Operation → Reply → ConnectionCall → Prop where
  | superseded {credentials attempt} :
      GivesUp (.startLogin credentials) (.started (.ok attempt)) .close
  | errored {error} : GivesUp (.transportErrored error) (.taken true) .close
  | unsent {clock write fault} :
      GivesUp (.sendSignIn clock write) (.sent (.error fault)) .close
  | rejected {frame packet} (h : packet.isSuccess = false) :
      GivesUp (.frameReceived frame) (.answered (some packet)) .close
  | disconnected : GivesUp .disconnect .done .close
  | closed {reason} : GivesUp (.transportClosed reason) (.taken true) .drop

/-- The connection that is held, and whether a request is still to be sent. -/
structure Custody where
  connection : Option ConnectionId
  owing : Bool
deriving Repr, DecidableEq

/-- What the move from one custody to the next takes: an operation and its reply, and the calls it
makes. -/
inductive Custody.Moves :
    Custody → Operation → Reply → List (ConnectionId × ConnectionCall) → Custody → Prop where
  | kept {custody operation reply} (h : operation.handedOver? = none) :
      Moves custody operation reply [] custody
  | begun {owing credentials attempt} :
      Moves ⟨none, owing⟩ (.startLogin credentials) (.started (.ok attempt)) [] ⟨none, true⟩
  | superseded {connection owing credentials attempt} :
      Moves ⟨some connection, owing⟩ (.startLogin credentials) (.started (.ok attempt))
        [(connection, .close)] ⟨none, true⟩
  | abandoned {owing operation reply} (h : operation.handedOver? = none) :
      Moves ⟨none, owing⟩ operation reply [] ⟨none, false⟩
  | refused {custody attempt connection} :
      Moves custody (.transportOpened attempt connection) (.taken false)
        [(connection, .close)] custody
  | accepted {attempt connection} :
      Moves ⟨none, true⟩ (.transportOpened attempt connection) (.taken true) []
        ⟨some connection, true⟩
  | sent {connection clock write frame} :
      Moves ⟨some connection, true⟩ (.sendSignIn clock write) (.sent (.ok frame))
        [(connection, .send frame)] ⟨some connection, false⟩
  | unsent {connection clock write frame fault} :
      Moves ⟨some connection, true⟩ (.sendSignIn clock write) (.sent (.error fault))
        [(connection, .send frame), (connection, .close)] ⟨none, false⟩
  | givenUp {connection owing operation reply call} (h : GivesUp operation reply call) :
      Moves ⟨some connection, owing⟩ operation reply [(connection, call)] ⟨none, false⟩

namespace Effect

@[simp] theorem calls_nil : calls [] = [] := rfl

@[simp] theorem calls_call_cons (connection : ConnectionId) (made : ConnectionCall)
    (rest : List Effect) :
    calls (.call connection made :: rest) = (connection, made) :: calls rest :=
  rfl

@[simp] theorem calls_notify_cons (notification : Notification) (rest : List Effect) :
    calls (.notify notification :: rest) = calls rest := rfl

@[simp] theorem calls_log_cons (entry : LogEntry) (rest : List Effect) :
    calls (.log entry :: rest) = calls rest := rfl

@[simp] theorem calls_append (before after : List Effect) :
    calls (before ++ after) = calls before ++ calls after :=
  List.filterMap_append

end Effect

namespace Session

def custody (s : Session) : Custody := ⟨s.connection, s.pending.isSome⟩

variable {s : Session} {phase : Phase}

theorem At.custody (h : s.At phase) :
    s.custody = ⟨phase.connection?, phase.pending?.isSome⟩ := by
  rw [Session.custody, h.connection, h.pending]

@[simp] theorem calls_closing (s : Session) :
    Effect.calls s.closing = s.connection.toList.map fun connection => (connection, .close) := by
  cases h : s.connection <;> simp [closing, h]

@[simp] theorem calls_dropping (s : Session) :
    Effect.calls s.dropping = s.connection.toList.map fun connection => (connection, .drop) := by
  cases h : s.connection <;> simp [dropping, h]

@[simp] theorem calls_failing (s : Session) (reason : FailureReason) :
    Effect.calls (s.failing reason).2 =
      s.connection.toList.map fun connection => (connection, .close) := by
  simp [failing]

@[simp] theorem calls_unreadableEntries (frame : Frame) :
    Effect.calls (unreadableEntries frame) = [] := by
  unfold unreadableEntries
  split <;> rfl

/-- A session that ends gives up what it holds, if anything. -/
theorem moves_of_givesUp {operation : Operation} {reply : Reply} {call : ConnectionCall}
    (s : Session) (hop : operation.handedOver? = none)
    (h : s.connection.isSome → GivesUp operation reply call) :
    s.custody.Moves operation reply
      (s.connection.toList.map fun connection => (connection, call)) ⟨none, false⟩ := by
  rw [custody]
  cases hconnection : s.connection with
  | none => exact .abandoned hop
  | some connection => exact .givenUp (h (by rw [hconnection]; rfl))

theorem failing_moves {operation : Operation} {reply : Reply} (s : Session)
    (reason : FailureReason) (hop : operation.handedOver? = none)
    (h : s.connection.isSome → GivesUp operation reply .close) :
    s.custody.Moves operation reply (Effect.calls (s.failing reason).2)
      (s.failing reason).1.custody := by
  rw [calls_failing]
  exact moves_of_givesUp s hop h

/-- A session that waits for an attempt holds nothing. -/
theorem At.not_held_of_isCurrent (h : s.At phase) {attempt : ConnectAttempt}
    (hcurrent : s.isCurrent attempt = true) : ¬ s.connection.isSome := by
  obtain ⟨login, rfl, -⟩ := (h.isCurrent_iff attempt).mp hcurrent
  simp [h.connection, Phase.connection?]

theorem startLogin_moves (s : Session) (credentials : Credentials) :
    s.custody.Moves (.startLogin credentials) (.started (s.startLogin credentials).reply)
      (Effect.calls (s.startLogin credentials).effects)
      (s.startLogin credentials).session.custody := by
  simp only [startLogin]
  split
  · exact .kept rfl
  · simp only [Effect.calls_append, calls_closing, custody]
    cases s.connection with
    | none => exact .begun
    | some connection => exact .superseded

theorem transportOpened_moves (h : s.At phase) (attempt : ConnectAttempt)
    (connection : ConnectionId) :
    s.custody.Moves (.transportOpened attempt connection)
      (.taken (s.transportOpened attempt connection).reply)
      (Effect.calls (s.transportOpened attempt connection).effects)
      (s.transportOpened attempt connection).session.custody := by
  simp only [transportOpened]
  split
  · rename_i hcurrent
    obtain ⟨login, rfl, rfl⟩ := (h.isCurrent_iff attempt).mp hcurrent
    simp only [Effect.calls_append, calls_dropping, custody, h.connection, h.pending]
    exact .accepted
  · exact .refused

theorem timeoutElapsed_moves (h : s.At phase) (attempt : ConnectAttempt) :
    s.custody.Moves (.timeoutElapsed attempt) (.taken (s.timeoutElapsed attempt).reply)
      (Effect.calls (s.timeoutElapsed attempt).effects)
      (s.timeoutElapsed attempt).session.custody := by
  simp only [timeoutElapsed]
  split
  · rename_i hcurrent
    exact failing_moves { s with metrics := _ } _ rfl fun hheld =>
      absurd hheld (h.not_held_of_isCurrent hcurrent)
  · exact .kept rfl

theorem connectFailed_moves (h : s.At phase) (attempt : ConnectAttempt) (error : String) :
    s.custody.Moves (.connectFailed attempt error) (.taken (s.connectFailed attempt error).reply)
      (Effect.calls (s.connectFailed attempt error).effects)
      (s.connectFailed attempt error).session.custody := by
  simp only [connectFailed]
  split
  · rename_i hcurrent
    exact failing_moves { s with metrics := _ } _ rfl fun hheld =>
      absurd hheld (h.not_held_of_isCurrent hcurrent)
  · exact .kept rfl

theorem transportErrored_moves (s : Session) (error : String) :
    s.custody.Moves (.transportErrored error) (.taken (s.transportErrored error).reply)
      (Effect.calls (s.transportErrored error).effects)
      (s.transportErrored error).session.custody := by
  simp only [transportErrored]
  cases s.state with
  | connecting => exact failing_moves { s with metrics := _ } _ rfl fun _ => .errored
  | connected | awaitingResponse => exact failing_moves s _ rfl fun _ => .errored
  | disconnected | failed reason => exact .kept rfl

theorem sendSignIn_moves (h : s.At phase) (clock : UInt64) (write : Frame → Except Fault Unit) :
    s.custody.Moves (.sendSignIn clock write) (.sent (s.sendSignIn clock write).reply)
      (Effect.calls (s.sendSignIn clock write).effects)
      (s.sendSignIn clock write).session.custody := by
  cases phase with
  | opened login connection =>
      rw [h.custody]
      simp only [sendSignIn, h.state, h.pending, h.connection, Phase.state, Phase.pending?,
        Phase.connection?, ne_eq, not_true_eq_false, if_false]
      split
      · rw [Effect.calls_call_cons, Effect.calls_log_cons, calls_failing]
        exact .unsent
      · exact .sent
  | signedIn login connection =>
      simp only [sendSignIn, h.state, h.pending, Phase.state, Phase.pending?, ne_eq,
        not_true_eq_false, if_false]
      exact .kept rfl
  | _ =>
      have hstate : s.state ≠ .connected := by simp [h.state, Phase.state]
      simp only [sendSignIn, if_pos hstate]
      exact .kept rfl

theorem frameReceived_moves (h : s.At phase) (frame : Frame) :
    s.custody.Moves (.frameReceived frame) (.answered (s.frameReceived frame).reply)
      (Effect.calls (s.frameReceived frame).effects)
      (s.frameReceived frame).session.custody := by
  cases phase with
  | waiting login connection =>
      simp only [frameReceived, h.state, Phase.state, ne_eq, not_true_eq_false, if_false]
      cases hsuccess : (Packet.receive frame).isSuccess with
      | true =>
          simp only [if_true, List.cons_append, Effect.calls_log_cons, Effect.calls_append,
            calls_unreadableEntries]
          exact .kept rfl
      | false =>
          rw [h.custody]
          simp only [Bool.false_eq_true, if_false, List.cons_append, Effect.calls_log_cons,
            Effect.calls_append, calls_unreadableEntries, calls_closing, h.connection, custody,
            h.pending]
          exact .givenUp (.rejected hsuccess)
  | _ =>
      have hstate : s.state ≠ .awaitingResponse := by simp [h.state, Phase.state]
      simp only [frameReceived, if_pos hstate]
      exact .kept rfl

/-- A session that holds a connection is not disconnected, so the reply tells that it was. -/
theorem transportClosed_moves (h : s.At phase) (reason : Option String) :
    s.custody.Moves (.transportClosed reason) (.taken (s.transportClosed reason).reply)
      (Effect.calls (s.transportClosed reason).effects)
      (s.transportClosed reason).session.custody := by
  have htold : Effect.calls (s.transportClosed reason).effects =
      s.connection.toList.map fun connection => (connection, .drop) := by
    simp only [transportClosed, Effect.calls_append, calls_dropping]
    split <;> simp
  rw [htold]
  refine moves_of_givesUp s rfl fun hheld => ?_
  have hreply : (s.transportClosed reason).reply = true := by
    simp only [h.connection] at hheld
    simp only [transportClosed, h.state]
    cases phase <;> simp_all [Phase.connection?, Phase.state]
  rw [hreply]
  exact .closed

theorem disconnect_moves (s : Session) :
    s.custody.Moves .disconnect .done (Effect.calls s.disconnect.effects)
      s.disconnect.session.custody := by
  have hcalls : Effect.calls s.disconnect.effects =
      s.connection.toList.map fun connection => (connection, .close) := by
    simp [disconnect]
  rw [hcalls]
  exact moves_of_givesUp s rfl fun _ => .disconnected

/-- Every operation on a session in a phase makes one of the moves of `Custody.Moves`. -/
theorem perform_moves (h : s.At phase) (operation : Operation) :
    s.custody.Moves operation (s.perform operation).reply
      (Effect.calls (s.perform operation).effects) (s.perform operation).session.custody := by
  cases operation with
  | startLogin credentials => exact startLogin_moves s credentials
  | transportOpened attempt connection => exact transportOpened_moves h attempt connection
  | timeoutElapsed attempt => exact timeoutElapsed_moves h attempt
  | connectFailed attempt error => exact connectFailed_moves h attempt error
  | transportErrored error => exact transportErrored_moves s error
  | sendSignIn clock write => exact sendSignIn_moves h clock write
  | frameReceived frame => exact frameReceived_moves h frame
  | transportClosed reason => exact transportClosed_moves h reason
  | disconnect => exact disconnect_moves s

end Session

end GatewayLogin
