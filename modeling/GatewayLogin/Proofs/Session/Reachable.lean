/-
Reachable sessions: what a session holds after any sequence of operations.

The replies of a run tell which logins were begun, which requests were sent, and which logins were
accepted; these are its milestones.  A run ends in a phase that fits its last milestones
(`Session.run_at`), and from that alone follows which fields are set in which state
(`Session.run_consistent`).
-/
import GatewayLogin.Proofs.Session.Phase
import Mathlib.Data.List.Induction

namespace GatewayLogin

/-- What a reply can tell about the progress of a login. -/
inductive Milestone where
  | begun (login : Login)
  | sent
  | accepted
deriving Repr, DecidableEq

/-- The login that a milestone begins. -/
def Milestone.login? : Milestone → Option Login
  | begun login => some login
  | _ => none

/-- The milestone that an operation reaches, judged by its reply. -/
def Operation.milestone? : Operation → Reply → Option Milestone
  | .startLogin credentials, .started (.ok attempt) => some (.begun ⟨credentials, attempt⟩)
  | .sendSignIn .., .sent (.ok _) => some .sent
  | .frameReceived _, .answered (some packet) => if packet.isSuccess then some .accepted else none
  | _, _ => none

/-- The login that an operation begins, judged by its reply. -/
def Operation.begun? (operation : Operation) (reply : Reply) : Option Login :=
  (operation.milestone? reply).bind Milestone.login?

/-- The login begun last among some milestones. -/
def latestLogin? (past : List Milestone) : Option Login :=
  (past.filterMap Milestone.login?).getLast?

/-- The milestone that a session in a phase has reached last. -/
def Phase.milestone? : Phase → Option Milestone
  | dialing login | opened login _ => some (.begun login)
  | waiting .. => some .sent
  | signedIn .. | lost .. => some .accepted
  | idle | failed _ => none

/-- A phase fits a past: it goes back to the latest login and to the last milestone. -/
structure Phase.Follows (phase : Phase) (past : List Milestone) : Prop where
  login : ∀ login, phase.login? = some login → latestLogin? past = some login
  last : ∀ milestone, phase.milestone? = some milestone → past.getLast? = some milestone

theorem latestLogin?_concat (past : List Milestone) (milestone : Milestone) :
    latestLogin? (past ++ [milestone]) = milestone.login?.or (latestLogin? past) := by
  cases milestone <;> simp [latestLogin?, Milestone.login?]

namespace Phase

theorem idle_follows (past : List Milestone) : idle.Follows past :=
  ⟨fun _ h => by simp [login?] at h, fun _ h => by simp [milestone?] at h⟩

theorem failed_follows (reason : FailureReason) (past : List Milestone) :
    (failed reason).Follows past :=
  ⟨fun _ h => by simp [login?] at h, fun _ h => by simp [milestone?] at h⟩

/-- A phase of the same login at the same milestone fits the same past. -/
theorem Follows.stay {phase next : Phase} {past : List Milestone} (h : phase.Follows past)
    (hlogin : next.login? = phase.login?) (hlast : next.milestone? = phase.milestone?) :
    next.Follows past :=
  ⟨fun login hnext => h.login login (hlogin ▸ hnext),
    fun milestone hnext => h.last milestone (hlast ▸ hnext)⟩

/-- A phase of the same login fits the past with its own milestone added. -/
theorem Follows.reach {phase next : Phase} {past : List Milestone} (h : phase.Follows past)
    {milestone : Milestone} (hsame : milestone.login? = none)
    (hlogin : next.login? = phase.login?) (hlast : next.milestone? = some milestone) :
    next.Follows (past ++ [milestone]) := by
  constructor
  · intro login hnext
    rw [latestLogin?_concat, hsame, Option.none_or]
    exact h.login login (hlogin ▸ hnext)
  · intro reached hnext
    rw [hlast] at hnext
    rw [List.getLast?_concat, hnext]

theorem dialing_follows (login : Login) (past : List Milestone) :
    (dialing login).Follows (past ++ [.begun login]) := by
  constructor
  · intro begun hbegun
    rw [latestLogin?_concat]
    exact hbegun
  · intro reached hreached
    rw [List.getLast?_concat]
    exact hreached

/-- A move keeps the phase in step with the milestones. -/
theorem Leads.follows {phase next : Phase} {operation : Operation} {reply : Reply}
    (h : phase.Leads operation reply next) {past : List Milestone} (hpast : phase.Follows past) :
    next.Follows (past ++ (operation.milestone? reply).toList) := by
  cases h with
  | begun => exact dialing_follows _ past
  | sent => exact hpast.reach rfl rfl rfl
  | accepted h =>
      simp only [Operation.milestone?, h, if_true]
      exact hpast.reach rfl rfl rfl
  | timedOut | unreached | erroredDialing | erroredOpened | erroredWaiting | unsent | rejected =>
      exact failed_follows _ _
  | closed | disconnected => exact idle_follows _
  | _ =>
      -- No milestone is reached, and the login is the same.
      simp only [Operation.milestone?, Option.toList_none, List.append_nil]
      exact hpast.stay rfl rfl

end Phase

namespace Session

/-- The milestones that operations on a session reach. -/
def milestones (s : Session) : List Operation → List Milestone
  | [] => []
  | operation :: rest =>
      (operation.milestone? (s.perform operation).reply).toList
        ++ (s.perform operation).session.milestones rest

theorem run_append (s : Session) (before after : List Operation) :
    s.run (before ++ after) = (s.run before).run after :=
  List.foldl_append ..

theorem run_concat (s : Session) (before : List Operation) (operation : Operation) :
    s.run (before ++ [operation]) = ((s.run before).perform operation).session := by
  rw [run_append]
  rfl

theorem milestones_concat (s : Session) (before : List Operation) (operation : Operation) :
    s.milestones (before ++ [operation]) = s.milestones before
      ++ (operation.milestone? ((s.run before).perform operation).reply).toList := by
  induction before generalizing s with
  | nil => simp [milestones, run]
  | cons first before ih =>
      simp only [List.cons_append, milestones, ih, List.append_assoc]
      rfl

/-- The logins that operations on a session begin. -/
def logins (s : Session) (operations : List Operation) : List Login :=
  (s.milestones operations).filterMap Milestone.login?

theorem logins_cons (s : Session) (operation : Operation) (rest : List Operation) :
    s.logins (operation :: rest) =
      (operation.begun? (s.perform operation).reply).toList
        ++ (s.perform operation).session.logins rest := by
  rw [logins, milestones, List.filterMap_append, Operation.begun?]
  cases operation.milestone? (s.perform operation).reply with
  | none => rfl
  | some milestone => cases milestone <;> rfl

theorem logins_append (s : Session) (before after : List Operation) :
    s.logins (before ++ after) = s.logins before ++ (s.run before).logins after := by
  induction before generalizing s with
  | nil => rfl
  | cons operation before ih =>
      rw [List.cons_append, logins_cons, logins_cons, ih, List.append_assoc]
      rfl

theorem effects_cons (s : Session) (operation : Operation) (rest : List Operation) :
    s.effects (operation :: rest) =
      (s.perform operation).effects ++ (s.perform operation).session.effects rest := by
  simp only [effects, steps, List.flatMap_cons]

theorem effects_append (s : Session) (before after : List Operation) :
    s.effects (before ++ after) = s.effects before ++ (s.run before).effects after := by
  induction before generalizing s with
  | nil => rfl
  | cons operation before ih =>
      rw [List.cons_append, effects_cons, effects_cons, ih, List.append_assoc]
      rfl

theorem perform_settings (s : Session) (operation : Operation) :
    (s.perform operation).session.settings = s.settings := by
  cases operation <;>
    simp only [perform, Step.map, startLogin, transportOpened, timeoutElapsed, connectFailed,
      transportErrored, sendSignIn, frameReceived, transportClosed, disconnect]
  all_goals
    repeat' split
    all_goals rfl

theorem run_settings (s : Session) (operations : List Operation) :
    (s.run operations).settings = s.settings := by
  induction operations generalizing s with
  | nil => rfl
  | cons operation rest ih => exact (ih _).trans (perform_settings s operation)

/-- Every run ends in a phase that fits its milestones. -/
theorem run_at (settings : ClientSettings) (operations : List Operation) :
    ∃ phase, ((new settings).run operations).At phase ∧
      phase.Follows ((new settings).milestones operations) := by
  induction operations using List.reverseRecOn with
  | nil => exact ⟨.idle, new_at settings, Phase.idle_follows _⟩
  | append_singleton before operation ih =>
      obtain ⟨phase, hat, hfollows⟩ := ih
      obtain ⟨next, hleads, hnext⟩ := perform_leads hat operation
      rw [run_concat, milestones_concat]
      exact ⟨next, hnext, hleads.follows hfollows⟩

/-- The fields of a session fit its state, and its past where they come from there. -/
structure Consistent (past : List Milestone) (s : Session) : Prop where
  connection_iff : s.connection.isSome ↔ s.state = .connected ∨ s.state = .awaitingResponse
  timer_iff : s.timer.isSome ↔ s.state = .connecting
  /-- Only the attempt that was handed out last is waited for. -/
  timer_latest : s.timer.isSome → s.timer = (latestLogin? past).map Login.attempt
  inFlight_iff : s.inFlight.isSome ↔ s.state = .awaitingResponse
  pending_connecting : s.state = .connecting → s.pending.isSome
  pending_none : s.state = .awaitingResponse ∨ (∃ reason, s.state = .failed reason) ∨
    s.state = .disconnected → s.pending = none
  /-- Either nothing was sent since the login began, or the login was accepted. -/
  pending_or_identity : s.state = .connected →
    (s.pending.isSome ∧ s.identity = none ∧ ∃ login, past.getLast? = some (.begun login)) ∨
      (s.pending = none ∧ s.identity.isSome ∧ past.getLast? = some .accepted)
  identity_none : s.state = .connecting ∨ s.state = .awaitingResponse ∨ s.state = .disconnected →
    s.identity = none

theorem At.consistent {s : Session} {phase : Phase} (h : s.At phase) {past : List Milestone}
    (hpast : phase.Follows past) : s.Consistent past := by
  obtain ⟨hlogin, hlast⟩ := hpast
  constructor <;>
    simp only [h.state, h.connection, h.timer, h.pending, h.inFlight, h.identity]
  · cases phase <;> simp [Phase.state, Phase.connection?]
  · cases phase <;> simp [Phase.state, Phase.timer?]
  · cases phase with
    | dialing login => simp [Phase.timer?, hlogin login rfl]
    | _ => simp [Phase.timer?]
  · cases phase <;> simp [Phase.state, Phase.inFlight?]
  · cases phase <;> simp [Phase.state, Phase.pending?]
  · cases phase <;> simp [Phase.state, Phase.pending?]
  · cases phase with
    | opened login connection =>
        exact fun _ => .inl ⟨rfl, rfl, login, hlast _ rfl⟩
    | signedIn login connection => exact fun _ => .inr ⟨rfl, rfl, hlast _ rfl⟩
    | _ => simp [Phase.state]
  · cases phase <;> simp [Phase.state, Phase.identity?]

/-- After any operations the fields of a session fit its state. -/
theorem run_consistent (settings : ClientSettings) (operations : List Operation) :
    ((new settings).run operations).Consistent ((new settings).milestones operations) := by
  obtain ⟨phase, hat, hfollows⟩ := run_at settings operations
  exact hat.consistent hfollows

end Session

end GatewayLogin
