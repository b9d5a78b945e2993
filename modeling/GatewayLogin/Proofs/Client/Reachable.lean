/-
Reachable clients: what calls do to the session of a client.

Whatever a client is called to do, its session changes by operations only, so that the session of a
client is always a reachable one.  Main statement: `Client.run_session`.
-/
import GatewayLogin.Client.Run
import GatewayLogin.Proofs.Session.Reachable

namespace GatewayLogin

namespace Session

/-- Some operations lead from one session to the other. -/
def Reaches (s t : Session) : Prop :=
  ∃ operations, s.run operations = t

variable {s t u : Session}

theorem Reaches.refl (s : Session) : s.Reaches s := ⟨[], rfl⟩

theorem Reaches.trans (hst : s.Reaches t) (htu : t.Reaches u) : s.Reaches u := by
  obtain ⟨before, rfl⟩ := hst
  obtain ⟨after, rfl⟩ := htu
  exact ⟨before ++ after, run_append s before after⟩

theorem reaches_perform (s : Session) (operation : Operation) :
    s.Reaches (s.perform operation).session := ⟨[operation], rfl⟩

end Session

namespace Client

theorem awaitResponse_reaches (hasTime : Bool) (later : Inbox) (s : Session)
    (events : List LinkEvent) :
    s.Reaches (awaitResponse hasTime later s events).session := by
  induction events generalizing s with
  | nil =>
      simp only [awaitResponse]
      split
      · exact s.reaches_perform (.transportClosed none)
      · exact .refl s
  | cons event rest ih =>
      cases event with
      | message frame =>
          have hstep := s.reaches_perform (.frameReceived frame)
          simp only [awaitResponse]
          split
          · exact hstep
          · exact hstep.trans (ih _)
      | errored text => exact s.reaches_perform (.transportErrored text)
      | closed reason => exact s.reaches_perform (.transportClosed reason)

theorem awaitClosed_reaches (later : Inbox) (s : Session) (events : List LinkEvent) :
    s.Reaches (awaitClosed later s events).session := by
  induction events generalizing s with
  | nil =>
      simp only [awaitClosed]
      split
      · exact s.reaches_perform (.transportClosed none)
      · exact .refl s
  | cons event rest ih =>
      cases event with
      | message frame => exact (s.reaches_perform (.frameReceived frame)).trans (ih _)
      | errored text => exact (s.reaches_perform (.transportErrored text)).trans (ih _)
      | closed reason => exact s.reaches_perform (.transportClosed reason)

theorem signIn_reaches (c : Client) (attempt : ConnectAttempt) (clock : UInt64) (hasTime : Bool)
    (link : Link) : c.session.Reaches (c.signIn attempt clock hasTime link).client.session := by
  have hopened := c.session.reaches_perform (.transportOpened attempt (c.links + 1))
  simp only [signIn]
  split
  · have hsent := hopened.trans (Session.reaches_perform _ (.sendSignIn clock link.write))
    split
    · exact hsent
    · exact hsent.trans (awaitResponse_reaches ..)
  · exact hopened

theorem afterDialing_reaches (c : Client) (attempt : ConnectAttempt) (clock : UInt64)
    (hasTime : Bool) (outcome : DialOutcome) :
    c.session.Reaches (c.afterDialing attempt clock hasTime outcome).client.session := by
  cases outcome with
  | opened link => exact c.signIn_reaches attempt clock hasTime link
  | timedOut => exact c.session.reaches_perform (.timeoutElapsed attempt)
  | abandoned => exact .refl c.session
  | failed fault =>
      cases fault with
      | connectTimeout => exact c.session.reaches_perform (.timeoutElapsed attempt)
      | _ => exact c.session.reaches_perform (.connectFailed attempt _)

/-- The client once a login has reached the session, with the stream given up. -/
def startingLogin (c : Client) (credentials : Credentials) : Client :=
  { c with session := (c.session.startLogin credentials).session, inbox := none }

/-- A login stops at the session, or goes on with what comes of dialing. -/
theorem login_client_cases (c : Client) (dialing : Dialing) (clock : UInt64) (patience : Nat)
    (credentials : Credentials) :
    (∃ fault, (c.session.startLogin credentials).reply = .error fault ∧
        (c.login dialing clock patience credentials).client = c.startingLogin credentials) ∨
      ∃ attempt hasTime outcome, (c.session.startLogin credentials).reply = .ok attempt ∧
        (c.login dialing clock patience credentials).client =
          ((c.startingLogin credentials).afterDialing attempt clock hasTime outcome).client := by
  cases hreply : (c.session.startLogin credentials).reply with
  | error fault => exact .inl ⟨fault, rfl, by simp only [login, hreply]; rfl⟩
  | ok attempt => exact .inr ⟨attempt, _, _, rfl, by simp only [login, hreply]; rfl⟩

theorem login_reaches (c : Client) (dialing : Dialing) (clock : UInt64) (patience : Nat)
    (credentials : Credentials) :
    c.session.Reaches (c.login dialing clock patience credentials).client.session := by
  have hstarted := c.session.reaches_perform (.startLogin credentials)
  rcases c.login_client_cases dialing clock patience credentials with
    ⟨fault, _, hclient⟩ | ⟨attempt, hasTime, outcome, _, hclient⟩
  · rw [hclient]
    exact hstarted
  · rw [hclient]
    exact hstarted.trans ((c.startingLogin credentials).afterDialing_reaches ..)

/-- A call changes the session by operations only. -/
theorem perform_reaches (c : Client) (call : Call) :
    c.session.Reaches (c.perform call).client.session := by
  cases call with
  | login credentials dialing clock patience => exact c.login_reaches ..
  | waitClosed patience =>
      simp only [perform, Turn.map, waitClosed]
      split
      · exact .refl c.session
      · exact awaitClosed_reaches ..
  | disconnect => exact c.session.reaches_perform .disconnect

theorem run_session (settings : ClientSettings) (calls : List Call) :
    (Session.new settings).Reaches ((new settings).run calls).session := by
  induction calls using List.reverseRecOn with
  | nil => exact .refl _
  | append_singleton before call ih =>
      rw [run, List.foldl_append]
      exact ih.trans (perform_reaches _ call)

theorem run_settings (settings : ClientSettings) (calls : List Call) :
    ((new settings).run calls).session.settings = settings := by
  obtain ⟨operations, hrun⟩ := run_session settings calls
  rw [← hrun, Session.run_settings]
  rfl

end Client

end GatewayLogin
