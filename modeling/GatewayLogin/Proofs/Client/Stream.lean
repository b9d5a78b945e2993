/-
The stream of events that a client holds beside its session.

A client that holds a stream has concluded its login (`Client.run_concluded`), so it has not come to
rest.  A login with incomplete credentials leaves the session as it was but gives up the stream, so
that a wait right after it ends at once.  Main statement:
`Client.incomplete_login_loses_only_stream`.
-/
import GatewayLogin.Proofs.Client.Reachable

namespace GatewayLogin

/-- Whether a login was accepted or has failed, and the session still shows which. -/
def Phase.isConcluded : Phase → Bool
  | signedIn .. | failed _ | lost .. => true
  | _ => false

namespace Client

/-- A client with a stream has a session that is not at rest. -/
def Listens (c : Client) : Prop :=
  c.inbox.isSome → c.session.state ≠ .disconnected

/-- A client with a stream has a session that has concluded its login. -/
def Concluded (c : Client) : Prop :=
  c.inbox.isSome → ∃ phase, c.session.At phase ∧ phase.isConcluded = true

theorem Concluded.listens {c : Client} (h : c.Concluded) : c.Listens := by
  intro hsome
  obtain ⟨phase, hat, hconcluded⟩ := h hsome
  rw [hat.state]
  cases phase <;> simp_all [Phase.state, Phase.isConcluded]

theorem awaitResponse_concluded {s : Session} {login : Login} {connection : ConnectionId}
    (h : s.At (.waiting login connection)) (hasTime : Bool) (later : Inbox)
    (events : List LinkEvent) (hinbox : (awaitResponse hasTime later s events).inbox.isSome) :
    ∃ phase, (awaitResponse hasTime later s events).session.At phase ∧
      phase.isConcluded = true := by
  cases events with
  | nil =>
      simp only [awaitResponse] at hinbox
      split at hinbox <;> simp at hinbox
  | cons event rest =>
      cases event with
      | message frame =>
          obtain ⟨hreply, hnext⟩ := h.frameReceived frame
          simp only [awaitResponse, hreply]
          exact ⟨_, hnext, by split <;> rfl⟩
      | errored text => exact ⟨_, h.transportErrored text, rfl⟩
      | closed reason => simp [awaitResponse] at hinbox

theorem signIn_concluded {c : Client} {login : Login} (h : c.session.At (.dialing login))
    (clock : UInt64) (hasTime : Bool) (link : Link) :
    (c.signIn login.attempt clock hasTime link).client.Concluded := by
  obtain ⟨hreply, hopened⟩ := h.transportOpened (c.links + 1)
  have hsent := hopened.sendSignIn clock link.write
  simp only [signIn, hreply, if_true]
  split
  · rename_i fault hfault
    rw [hfault] at hsent
    exact fun _ => ⟨_, hsent, rfl⟩
  · rename_i frame hframe
    rw [hframe] at hsent
    intro hinbox
    exact awaitResponse_concluded hsent _ _ _ hinbox

theorem afterDialing_concluded {c : Client} {login : Login} (h : c.session.At (.dialing login))
    (hinbox : c.inbox = none) (clock : UInt64) (hasTime : Bool) (outcome : DialOutcome) :
    (c.afterDialing login.attempt clock hasTime outcome).client.Concluded := by
  have hnone : ∀ s : Session, Concluded { c with session := s } := by
    intro s hsome
    simp [hinbox] at hsome
  cases outcome with
  | opened link => exact signIn_concluded h clock hasTime link
  | timedOut => exact hnone _
  | abandoned => exact hnone _
  | failed fault => cases fault <;> exact hnone _

theorem awaitClosed_inbox (later : Inbox) (s : Session) (events : List LinkEvent) :
    (awaitClosed later s events).inbox = none := by
  induction events generalizing s with
  | nil =>
      simp only [awaitClosed]
      split <;> rfl
  | cons event rest ih =>
      cases event with
      | message frame => exact ih _
      | errored text => exact ih _
      | closed reason => rfl

theorem perform_concluded {c : Client} (h : c.Concluded) (call : Call) :
    (c.perform call).client.Concluded := by
  cases call with
  | login credentials dialing clock patience =>
      change (c.login dialing clock patience credentials).client.Concluded
      rcases c.login_client_cases dialing clock patience credentials with
        ⟨fault, _, hclient⟩ | ⟨attempt, hasTime, outcome, hreply, hclient⟩
      · rw [hclient]
        intro hsome
        simp [startingLogin] at hsome
      · rw [hclient]
        exact afterDialing_concluded (c := c.startingLogin credentials)
          (Session.startLogin_at hreply) rfl clock hasTime outcome
  | waitClosed patience =>
      simp only [perform, Turn.map, waitClosed]
      split
      · exact h
      · intro hsome
        simp [awaitClosed_inbox] at hsome
  | disconnect =>
      intro hsome
      simp [perform, Turn.map, disconnect] at hsome

theorem run_concluded (settings : ClientSettings) (calls : List Call) :
    ((new settings).run calls).Concluded := by
  induction calls using List.reverseRecOn with
  | nil => exact fun hsome => by simp [run, new] at hsome
  | append_singleton before call ih =>
      rw [run, List.foldl_append]
      exact perform_concluded ih call

/-- What the user of a client sees of a turn: the answer, the session, and the notifications. -/
structure Outcome where
  reply : Option ClientReply
  session : Session
  notifications : List Notification

/-- The outcomes of several calls. -/
def outcomes (c : Client) (calls : List Call) : List Outcome :=
  (c.turns calls).map fun turn =>
    ⟨turn.reply, turn.client.session, Effect.notifications turn.effects⟩

theorem awaitClosed_state {later : Inbox} {s : Session} {events : List LinkEvent}
    (h : (awaitClosed later s events).reply = some ()) :
    (awaitClosed later s events).session.state = .disconnected := by
  induction events generalizing s with
  | nil =>
      simp only [awaitClosed] at h ⊢
      split at h
      · simp_all [Session.transportClosed]
      · cases h
  | cons event rest ih =>
      cases event with
      | message frame => exact ih h
      | errored text => exact ih h
      | closed reason => rfl

/-- Without its stream a client does the same, but for a wait. -/
theorem perform_without_inbox (c : Client) (call : Call)
    (h : ∀ patience, call ≠ .waitClosed patience) :
    { c with inbox := none }.perform call = c.perform call := by
  cases call with
  | login credentials dialing clock patience => rfl
  | waitClosed patience => exact absurd rfl (h patience)
  | disconnect => rfl

/-- A wait that ends leaves another session than it found. -/
theorem waitClosed_outcome_ne {c : Client} (h : c.Listens) (hinbox : c.inbox.isSome)
    (patience : Nat) (hreply : (c.perform (.waitClosed patience)).reply.isSome) :
    (c.perform (.waitClosed patience)).client.session ≠ c.session := by
  obtain ⟨inbox, hsome⟩ := Option.isSome_iff_exists.mp hinbox
  simp only [perform, Turn.map, waitClosed, hsome, Option.isSome_map] at hreply ⊢
  have hstate := awaitClosed_state (Option.eq_some_of_isSome hreply)
  intro hsame
  rw [hsame] at hstate
  exact h hinbox hstate

theorem outcomes_without_inbox_iff {c : Client} (h : c.Listens) (later : List Call) :
    { c with inbox := none }.outcomes later = c.outcomes later ↔
      c.inbox = none ∨ ∀ patience, later.head? ≠ some (.waitClosed patience) := by
  cases hinbox : c.inbox with
  | none =>
      have hsame : { c with inbox := none } = c := by rw [← hinbox]
      simp [hsame]
  | some inbox =>
      cases later with
      | nil => simp [outcomes, turns]
      | cons call rest =>
          by_cases hwait : ∃ patience, call = .waitClosed patience
          · obtain ⟨patience, rfl⟩ := hwait
            have hne := waitClosed_outcome_ne h (by simp [hinbox]) patience
            -- The client without a stream answers at once and keeps its session.
            have hbare : { c with inbox := none }.perform (.waitClosed patience) =
                { reply := some .done, client := { c with inbox := none }, effects := [] } := rfl
            simp only [outcomes, turns, hbare, List.map_cons, List.cons.injEq, Outcome.mk.injEq,
              reduceCtorEq, false_or, List.head?_cons]
            constructor
            · rintro ⟨⟨hreply, hsession, _⟩, _⟩
              exact absurd hsession.symm (hne (by rw [← hreply]; rfl))
            · intro hhead
              exact absurd rfl (hhead patience)
          · have hother : ∀ patience, call ≠ .waitClosed patience :=
              fun patience heq => hwait ⟨patience, heq⟩
            simp [outcomes, turns, perform_without_inbox c call hother, hother]

theorem validate_incomplete {url token : String} {userId deviceId : UInt64}
    (h : Text.trim url = "" ∨ userId = 0 ∨ deviceId = 0 ∨ Text.trim token = "") :
    ∃ problem, (Credentials.new url userId deviceId token).validate =
      .error (.invalidCredentials problem) := by
  have hmissing : (Credentials.new url userId deviceId token).missing? ≠ none := by
    simp only [Credentials.missing?, Credentials.new, String.isEmpty_iff]
    grind
  obtain ⟨thing, hthing⟩ := Option.ne_none_iff_exists'.mp hmissing
  exact ⟨"missing " ++ thing, by simp only [Credentials.validate, hthing]⟩

theorem login_refused (c : Client) {credentials : Credentials} {fault : Fault}
    (h : credentials.validate = .error fault) (dialing : Dialing) (clock : UInt64)
    (patience : Nat) :
    c.perform (.login credentials dialing clock patience) =
      { reply := some (.login (.error fault))
        client := { c with inbox := none }
        effects := [
          .log ⟨.warn, "Rejecting login request", [Session.textField "error" fault.message]⟩,
          .notify (.status false "incomplete login information")] } := by
  simp only [perform, login, Session.startLogin, h]
  rfl

/-- A login with incomplete credentials is answered with what is missing and told once.  It dials
nothing and changes nothing but that the stream is given up, and this shows in later calls exactly
if a stream was held and the next call waits on it. -/
theorem incomplete_login_loses_only_stream (settings : ClientSettings) (calls : List Call)
    (url token : String) (userId deviceId : UInt64)
    (h : Text.trim url = "" ∨ userId = 0 ∨ deviceId = 0 ∨ Text.trim token = "")
    (dialing : Dialing) (clock : UInt64) (patience : Nat) (later : List Call) :
    let c := (new settings).run calls
    let turn := c.perform (.login (Credentials.new url userId deviceId token) dialing clock patience)
    (∃ problem, turn.reply = some (.login (.error (.invalidCredentials problem)))) ∧
      Effect.notifications turn.effects = [.status false "incomplete login information"] ∧
      Effect.calls turn.effects = [] ∧
      turn.dialed = none ∧
      turn.client = { c with inbox := none } ∧
      (turn.client.outcomes later = c.outcomes later ↔
        c.inbox = none ∨ ∀ patience, later.head? ≠ some (.waitClosed patience)) := by
  intro c turn
  obtain ⟨problem, hproblem⟩ := validate_incomplete h
  have hturn : turn = _ := c.login_refused hproblem dialing clock patience
  have hclient : turn.client = { c with inbox := none } := by rw [hturn]
  refine ⟨⟨problem, ?_⟩, ?_, ?_, ?_, hclient, ?_⟩
  · rw [hturn]
  · rw [hturn]
    rfl
  · rw [hturn]
    rfl
  · rw [hturn]
  · rw [hclient]
    exact outcomes_without_inbox_iff (run_concluded settings calls).listens later

/-- A login that is accepted over a link which closes right after. -/
def acceptedLogin : Call :=
  .login (.new "ws://gateway" 7 8 "secret")
    ⟨0, .opened { write := fun _ => .ok (), replies := fun _ => [.message [], .closed "bye"] }⟩
    1700000000000 3600000

/-- A login without a user. -/
def userlessLogin : Call :=
  .login (.new "ws://gateway" 0 8 "secret") ⟨0, .never⟩ 1700000000000 3600000

theorem userless_login_loses_stream :
    (Text.trim "ws://gateway" = "" ∨ (0 : UInt64) = 0 ∨ (8 : UInt64) = 0 ∨
        Text.trim "secret" = "") ∧
      ((((new {}).run [acceptedLogin]).perform userlessLogin).client.outcomes
          [.waitClosed 3600000] ≠
        ((new {}).run [acceptedLogin]).outcomes [.waitClosed 3600000]) := by
  have hzero : (0 : UInt64) = 0 := rfl
  obtain ⟨_, _, _, _, _, hlater⟩ := incomplete_login_loses_only_stream {} [acceptedLogin]
    "ws://gateway" "secret" 0 8 (.inr (.inl hzero)) ⟨0, .never⟩ 1700000000000 3600000
    [.waitClosed 3600000]
  refine ⟨.inr (.inl hzero), fun hsame => ?_⟩
  rcases hlater.mp hsame with hnone | hhead
  · exact absurd hnone (by decide +kernel)
  · exact hhead 3600000 rfl

theorem wait_ends_early_after_refused_login :
    ((new {}).run [acceptedLogin, .waitClosed 3600000]).session.state = .disconnected ∧
      ((new {}).run [acceptedLogin, userlessLogin, .waitClosed 3600000]).session.state =
        .connected := by
  decide +kernel

end Client

end GatewayLogin
