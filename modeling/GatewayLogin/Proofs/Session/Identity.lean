/-
Identities: how long a session shows who is signed in.

An identity is always that of the latest login.  It goes with the connection that carried the
login, whichever way this is lost, with one exception: a transport error after the login was
accepted leaves it behind, until the session starts over.  Main statement:
`Session.identity_only_while_live_unless_lost`.
-/
import GatewayLogin.Proofs.Session.Reachable

namespace GatewayLogin

/-- Whether an operation ends whatever went on before it, also after a failure. -/
def Operation.startsOver : Operation → Bool
  | .startLogin credentials => credentials.validate.isOk
  | .transportClosed _ | .disconnect => true
  | _ => false

namespace Phase

/-- The phases in which an identity has outlived its connection. -/
def isLost : Phase → Bool
  | lost .. => true
  | _ => false

theorem login?_of_identity? {phase : Phase} {identity : Identity}
    (h : phase.identity? = some identity) :
    ∃ login, phase.login? = some login ∧ login.identity = identity := by
  cases phase <;> simp_all [identity?, login?]

/-- A lost phase is left only by starting over. -/
theorem Leads.isLost_of_not_startsOver {phase next : Phase} {operation : Operation} {reply : Reply}
    (h : phase.Leads operation reply next) (hlost : phase.isLost = true)
    (hgo : operation.startsOver = false) : next.isLost = true := by
  cases h with
  | refused | openedLate | timedOutLate | unreachedLate | erroredLate | sentUnopened
  | unsolicited =>
      exact hlost
  | begun hvalid => simp [Operation.startsOver, hvalid, Except.isOk, Except.toBool] at hgo
  | closed | disconnected => simp [Operation.startsOver] at hgo
  | _ => simp [isLost] at hlost

theorem Leads.isLost_of_signedIn {login : Login} {connection : ConnectionId} {error : String}
    {reply : Reply} {next : Phase}
    (h : (signedIn login connection).Leads (.transportErrored error) reply next) :
    next.isLost = true := by
  cases h with
  | erroredSignedIn => rfl
  | erroredLate hidle => simp [state, SessionState.isActive] at hidle

/-- A lost phase comes from another one, or from a transport error after the login was accepted. -/
theorem Leads.isLost_cases {phase next : Phase} {operation : Operation} {reply : Reply}
    (h : phase.Leads operation reply next) (hlost : next.isLost = true) :
    (phase.isLost = true ∧ operation.startsOver = false) ∨
      ∃ login connection error,
        phase = signedIn login connection ∧ operation = .transportErrored error := by
  cases h with
  | erroredSignedIn => exact .inr ⟨_, _, _, rfl, rfl⟩
  | refused hfault =>
      exact .inl ⟨hlost, by simp [Operation.startsOver, hfault, Except.isOk, Except.toBool]⟩
  | openedLate | timedOutLate | unreachedLate | erroredLate | sentUnopened | unsolicited =>
      exact .inl ⟨hlost, rfl⟩
  | _ => simp [isLost] at hlost

end Phase

namespace Session

/-- The session shows an identity over a connection that it holds. -/
def SignedIn (s : Session) : Prop :=
  s.state = .connected ∧ s.connection.isSome ∧ s.identity.isSome

/-- The session shows an identity without any connection. -/
def Stranded (s : Session) : Prop :=
  s.identity.isSome ∧ s.connection = none

variable {s : Session} {phase : Phase}

theorem At.signedIn_iff (h : s.At phase) :
    s.SignedIn ↔ ∃ login connection, phase = .signedIn login connection := by
  rw [SignedIn, h.state, h.connection, h.identity]
  cases phase <;> simp [Phase.state, Phase.connection?, Phase.identity?]

theorem At.stranded_iff (h : s.At phase) : s.Stranded ↔ phase.isLost = true := by
  rw [Stranded, h.connection, h.identity]
  cases phase <;> simp [Phase.isLost, Phase.connection?, Phase.identity?]

/-- An identity is either live or stranded. -/
theorem At.live_iff (h : s.At phase) :
    (s.identity.isSome → s.state = .connected ∧ s.connection.isSome) ↔ ¬ s.Stranded := by
  rw [h.stranded_iff, h.state, h.connection, h.identity]
  cases phase <;> simp [Phase.isLost, Phase.state, Phase.connection?, Phase.identity?]

theorem At.perform_stranded_iff (h : s.At phase) (operation : Operation) :
    (s.perform operation).session.Stranded ↔
      (s.Stranded ∧ operation.startsOver = false) ∨
        (s.SignedIn ∧ ∃ error, operation = .transportErrored error) := by
  obtain ⟨next, hleads, hnext⟩ := perform_leads h operation
  rw [hnext.stranded_iff, h.stranded_iff, h.signedIn_iff]
  constructor
  · intro hlost
    rcases hleads.isLost_cases hlost with hstay | ⟨login, connection, error, hphase, herror⟩
    · exact .inl hstay
    · exact .inr ⟨⟨login, connection, hphase⟩, error, herror⟩
  · rintro (⟨hlost, hgo⟩ | ⟨⟨login, connection, rfl⟩, error, rfl⟩)
    · exact hleads.isLost_of_not_startsOver hlost hgo
    · exact hleads.isLost_of_signedIn

/-- The operations hold a transport error that came while the session was signed in, and after it
none that starts over. -/
def LostSignedIn (settings : ClientSettings) (operations : List Operation) : Prop :=
  ∃ before error after, operations = before ++ .transportErrored error :: after ∧
    ((new settings).run before).SignedIn ∧
    ∀ operation ∈ after, operation.startsOver = false

theorem lostSignedIn_concat_iff (settings : ClientSettings) (before : List Operation)
    (operation : Operation) :
    LostSignedIn settings (before ++ [operation]) ↔
      (LostSignedIn settings before ∧ operation.startsOver = false) ∨
        (((new settings).run before).SignedIn ∧ ∃ error, operation = .transportErrored error) := by
  constructor
  · rintro ⟨first, error, after, heq, hsigned, hafter⟩
    rcases List.eq_nil_or_concat after with rfl | ⟨between, final, rfl⟩
    · obtain ⟨rfl, hlast⟩ := List.append_inj' heq rfl
      exact .inr ⟨hsigned, error, by simpa using hlast⟩
    · rw [List.concat_eq_append] at heq hafter
      rw [← List.cons_append, ← List.append_assoc] at heq
      obtain ⟨rfl, hlast⟩ := List.append_inj' heq rfl
      obtain rfl : operation = final := by simpa using hlast
      exact .inl ⟨⟨first, error, between, rfl, hsigned, fun o ho => hafter o (by simp [ho])⟩,
        hafter _ (by simp)⟩
  · rintro (⟨⟨first, error, after, rfl, hsigned, hafter⟩, hgo⟩ | ⟨hsigned, error, rfl⟩)
    · refine ⟨first, error, after ++ [operation], by simp, hsigned, ?_⟩
      intro o ho
      rcases List.mem_append.mp ho with hold | hnew
      · exact hafter o hold
      · rwa [List.mem_singleton.mp hnew]
    · exact ⟨before, error, [], rfl, hsigned, by simp⟩

/-- An identity is stranded exactly by a transport error while signed in. -/
theorem run_stranded_iff (settings : ClientSettings) (operations : List Operation) :
    ((new settings).run operations).Stranded ↔ LostSignedIn settings operations := by
  induction operations using List.reverseRecOn with
  | nil => simp [LostSignedIn, Stranded, run, new]
  | append_singleton before operation ih =>
      obtain ⟨phase, hat, _⟩ := run_at settings before
      rw [run_concat, hat.perform_stranded_iff, lostSignedIn_concat_iff, ih]

/-- The identity is always that of the latest login.  It is shown over an open connection only,
unless a transport error came while the session was signed in and nothing has started over since;
and of all operations that let a connection go, only a transport error leaves an identity. -/
theorem identity_only_while_live_unless_lost (settings : ClientSettings)
    (operations : List Operation) :
    (∀ identity, ((new settings).run operations).identity = some identity →
      (latestLogin? ((new settings).milestones operations)).map Login.identity = some identity) ∧
    ((((new settings).run operations).identity.isSome →
        ((new settings).run operations).state = .connected ∧
          ((new settings).run operations).connection.isSome) ↔
      ¬ LostSignedIn settings operations) ∧
    ∀ operation, ((new settings).run operations).connection.isSome →
      ((new settings).run (operations ++ [operation])).connection = none →
      (((new settings).run (operations ++ [operation])).identity.isSome ↔
        ((new settings).run operations).SignedIn ∧
          ∃ error, operation = .transportErrored error) := by
  obtain ⟨phase, hat, hfollows⟩ := run_at settings operations
  refine ⟨?_, ?_, ?_⟩
  · intro identity hidentity
    rw [hat.identity] at hidentity
    obtain ⟨login, hlogin, rfl⟩ := Phase.login?_of_identity? hidentity
    rw [hfollows.login login hlogin, Option.map_some]
  · rw [hat.live_iff, run_stranded_iff]
  · intro operation hheld hgone
    have hstranded : ¬ ((new settings).run operations).Stranded := by
      rintro ⟨_, hnone⟩
      simp [hnone] at hheld
    rw [run_concat] at hgone ⊢
    have hleft : (((new settings).run operations).perform operation).session.Stranded ↔
        (((new settings).run operations).perform operation).session.identity.isSome :=
      ⟨And.left, fun hidentity => ⟨hidentity, hgone⟩⟩
    rw [← hleft, hat.perform_stranded_iff]
    simp only [hstranded, false_and, false_or]

/-- An accepted login whose connection fails. -/
def acceptedThenErrored : List Operation := [
  .startLogin ⟨"ws://gateway", 7, 8, "secret"⟩,
  .transportOpened ⟨1, .ofSeconds 5⟩ 1,
  .sendSignIn 1700000000000 fun _ => .ok (),
  .frameReceived [],
  .transportErrored "reset"]

theorem identity_outlives_connection :
    ((new {}).run acceptedThenErrored).identity = some ⟨7, 8⟩ ∧
      ((new {}).run acceptedThenErrored).state = .failed (.transport "reset") ∧
      ((new {}).run acceptedThenErrored).connection = none := by
  decide +kernel

end Session

end GatewayLogin
