/-
What a login owes to what went on before: numbers, and nothing else.

Two clients with the same settings log in side by side (`Client.login_alike`): the start of the
login makes their sessions alike, and every step after it keeps them so.  What was held before, be
it a connection, an identity or a stream with events on it, shows in nothing but the close of the
connection.  Main statement: `Client.logins_isolated`.
-/
import GatewayLogin.Proofs.Client.Conclusion
import GatewayLogin.Proofs.Session.Alike

namespace GatewayLogin

/-- Two waits come to the same, apart from numbers. -/
structure Client.Waited.Alike {α : Type} (before other : Metrics) (left right : Waited α) :
    Prop where
  reply : left.reply = right.reply
  session : left.session.Alike before other right.session
  inbox : left.inbox = right.inbox
  effects : left.effects.map Effect.unnumbered = right.effects.map Effect.unnumbered

/-- Two turns come to the same, apart from numbers. -/
structure Turn.Alike {α : Type} (before other : Metrics) (left right : Turn α) : Prop where
  reply : left.reply = right.reply
  session : left.client.session.Alike before other right.client.session
  inbox : left.client.inbox = right.client.inbox
  effects : left.effects.map Effect.unnumbered = right.effects.map Effect.unnumbered

/-- What shows of a login, apart from the numbers of its attempt and of its connection. -/
structure LoginReport where
  result : Option (Except Fault Packet)
  told : List Notification
  /-- The frames that were written. -/
  frames : List Frame
  /-- What the counters gained. -/
  counted : Metrics
  state : SessionState
  identity : Option Identity
  requestId : Option UInt64
  /-- Whether a connection is held. -/
  held : Bool
  inbox : Option Inbox
  dialed : Option String
  waited : Nat
  /-- All that is to be done once the connection that was held before is closed. -/
  effects : List Effect

/-- The report of a login on a client that had a session. -/
def Turn.report (turn : Turn (Except Fault Packet)) (start : Session) : LoginReport where
  result := turn.reply
  told := Effect.notifications turn.effects
  frames := Effect.frames turn.effects
  counted := turn.client.session.metrics.since start.metrics
  state := turn.client.session.state
  identity := turn.client.session.identity
  requestId := turn.client.session.requestId
  held := turn.client.session.connection.isSome
  inbox := turn.client.inbox
  dialed := turn.dialed
  waited := turn.waited
  effects := (turn.effects.drop start.closing.length).map Effect.unnumbered

namespace Client

variable {before other : Metrics} {s t : Session} {c d : Client} {attempt twin : ConnectAttempt}

theorem isOver_alike (h : s.Alike before other t) (inbox : Inbox) :
    isOver inbox s = isOver inbox t := by
  simp only [isOver, ← Option.not_isSome, h.held]

theorem awaitResponse_alike (h : s.Alike before other t) (hasTime : Bool) (later : Inbox)
    (events : List LinkEvent) :
    (awaitResponse hasTime later s events).Alike before other
      (awaitResponse hasTime later t events) := by
  induction events generalizing s t with
  | nil =>
      simp only [awaitResponse, isOver_alike h]
      split
      · obtain ⟨-, hsession, heffects⟩ := h.transportClosed none
        exact ⟨rfl, hsession, rfl, heffects⟩
      · exact ⟨rfl, h, rfl, rfl⟩
  | cons event rest ih =>
      cases event with
      | message frame =>
          obtain ⟨hreply, hsession, heffects⟩ := h.frameReceived frame
          simp only [awaitResponse, hreply]
          split
          · exact ⟨rfl, hsession, rfl, heffects⟩
          · obtain ⟨hanswer, hlast, hinbox, hmore⟩ := ih hsession
            refine ⟨hanswer, hlast, hinbox, ?_⟩
            simp only [List.map_append, heffects, hmore]
      | errored text =>
          obtain ⟨-, hsession, heffects⟩ := h.transportErrored text
          exact ⟨rfl, hsession, rfl, heffects⟩
      | closed reason =>
          obtain ⟨-, hsession, heffects⟩ := h.transportClosed reason
          exact ⟨rfl, hsession, rfl, heffects⟩

theorem signIn_alike (h : c.session.Alike before other d.session)
    (hc : c.session.isCurrent attempt = true) (hd : d.session.isCurrent twin = true)
    (clock : UInt64) (hasTime : Bool) (link : Link) :
    (c.signIn attempt clock hasTime link).Alike before other
      (d.signIn twin clock hasTime link) := by
  have htaken : (d.session.transportOpened twin (d.links + 1)).reply = true := by
    simp only [Session.transportOpened, hd, if_true]
  obtain ⟨hreply, hopened, hup⟩ := h.transportOpened hc hd (c.links + 1) (d.links + 1)
  obtain ⟨hanswer, hsent, hwritten⟩ := hopened.sendSignIn clock link.write
  simp only [signIn, hreply, htaken, if_true, hanswer]
  cases ((d.session.transportOpened twin (d.links + 1)).session.sendSignIn clock link.write).reply
  with
  | error fault =>
      refine ⟨rfl, hsent, rfl, ?_⟩
      simp only [List.map_append, hup, hwritten]
  | ok frame =>
      obtain ⟨hlast, hsession, hinbox, hmore⟩ :=
        awaitResponse_alike hsent hasTime (link.answering frame hasTime).2
          (link.answering frame hasTime).1
      refine ⟨hlast, hsession, hinbox, ?_⟩
      simp only [List.map_append, hup, hwritten, hmore]

theorem afterDialing_alike (h : c.session.Alike before other d.session)
    (hinbox : c.inbox = d.inbox) (hc : c.session.isCurrent attempt = true)
    (hd : d.session.isCurrent twin = true) (clock : UInt64) (hasTime : Bool)
    (outcome : DialOutcome) :
    (c.afterDialing attempt clock hasTime outcome).Alike before other
      (d.afterDialing twin clock hasTime outcome) := by
  obtain ⟨-, htimedOut, htold⟩ := h.timeoutElapsed hc hd
  cases outcome with
  | opened link => exact signIn_alike h hc hd clock hasTime link
  | timedOut => exact ⟨rfl, htimedOut, hinbox, htold⟩
  | abandoned => exact ⟨rfl, h, hinbox, rfl⟩
  | failed fault =>
      obtain ⟨-, hfailed, hmade⟩ := h.connectFailed hc hd fault.message
      cases fault with
      | connectTimeout => exact ⟨rfl, htimedOut, hinbox, htold⟩
      | _ => exact ⟨rfl, hfailed, hinbox, hmade⟩

/-- Whatever two clients with the same settings did before, a login comes to the same. -/
theorem login_alike (hsettings : c.session.settings = d.session.settings)
    {credentials : Credentials} (hvalid : credentials.validate = .ok ()) (dialing : Dialing)
    (clock : UInt64) (patience : Nat) :
    let turn := c.login dialing clock patience credentials
    let same := d.login dialing clock patience credentials
    turn.reply = same.reply ∧ turn.dialed = same.dialed ∧ turn.waited = same.waited ∧
      turn.client.session.Alike c.session.metrics d.session.metrics same.client.session ∧
      turn.client.inbox = same.client.inbox ∧
      ∃ made others, turn.effects = c.session.closing ++ made ∧
        same.effects = d.session.closing ++ others ∧
        made.map Effect.unnumbered = others.map Effect.unnumbered := by
  obtain ⟨attempt, hattempt, htimeout, hc, -, -⟩ := c.session.startLogin_yields hvalid
  obtain ⟨twin, htwin, htwinTimeout, hd, -, -⟩ := d.session.startLogin_yields hvalid
  obtain ⟨hsession, made, others, hmade, hothers, hstarted⟩ :=
    Session.startLogin_alike hsettings hvalid
  simp only [login, hattempt, htwin, htimeout, htwinTimeout, hsettings, hmade, hothers]
  -- Both allow the same time for the link, so both see the same come of dialing.
  generalize dialing.await d.session.settings.connectTimeout.ticks patience = seen
  obtain ⟨outcome, waited⟩ := seen
  obtain ⟨hreply, hlast, hinbox, hmore⟩ :=
    afterDialing_alike (c := c.startingLogin credentials) (d := d.startingLogin credentials)
      hsession rfl hc.isCurrent hd.isCurrent clock (waited < patience) outcome
  simp only [startingLogin] at hreply hlast hinbox hmore
  refine ⟨hreply, trivial, by rw [hreply], hlast, hinbox, _, _, List.append_assoc ..,
    List.append_assoc .., ?_⟩
  simp only [List.map_append, List.map_cons, hstarted, hmore]

/-- What is told and written after a connection is closed is the same without numbers. -/
theorem effects_after_closing (s : Session) {effects made : List Effect}
    (h : effects = s.closing ++ made) :
    Effect.notifications effects = Effect.notifications (made.map Effect.unnumbered) ∧
      Effect.frames effects = Effect.frames (made.map Effect.unnumbered) ∧
      effects.drop s.closing.length = made := by
  rw [h, Effect.notifications_unnumbered, Effect.frames_unnumbered]
  refine ⟨by simp, ?_, List.drop_left⟩
  rw [Effect.frames_append, Session.frames_closing, List.nil_append]

/-- After any calls, cancelled ones too, a login with complete credentials comes to what it comes to
after any other calls: with the same answer to the request to open a link, the same clock and the
same patience, the report is the same. -/
theorem logins_isolated (settings : ClientSettings) (calls others : List Call)
    (credentials : Credentials) (hvalid : credentials.validate = .ok ()) (dialing : Dialing)
    (clock : UInt64) (patience : Nat) :
    let c := (new settings).run calls
    let d := (new settings).run others
    (c.login dialing clock patience credentials).report c.session =
      (d.login dialing clock patience credentials).report d.session := by
  intro c d
  have hsettings : c.session.settings = d.session.settings :=
    (run_settings settings calls).trans (run_settings settings others).symm
  obtain ⟨hreply, hdialed, hwaited, hsession, hinbox, made, same, hmade, hsame, heffects⟩ :=
    login_alike hsettings hvalid dialing clock patience
  obtain ⟨htold, hframes, hrest⟩ := effects_after_closing c.session hmade
  obtain ⟨htold', hframes', hrest'⟩ := effects_after_closing d.session hsame
  simp only [Turn.report, LoginReport.mk.injEq]
  refine ⟨hreply, ?_, ?_, hsession.metrics, hsession.state, hsession.identity, hsession.requestId,
    hsession.held, hinbox, hdialed, hwaited, ?_⟩
  · rw [htold, htold', heffects]
  · rw [hframes, hframes', heffects]
  · rw [hrest, hrest', heffects]

/-- A login that the peer refuses, with a close still on the stream, and one that is cancelled after
its request was sent. -/
def refusedThenCancelled : List Call := [
  .login (.new "ws://gateway" 7 8 "secret") ⟨0, .opened refusingPeer⟩ 1700000000000 3600000,
  .login (.new "ws://gateway" 7 8 "secret") ⟨0, .opened { write := fun _ => .ok () }⟩
    1700000000000 1000]

theorem login_isolated_from_accepted :
    let credentials := Credentials.new "ws://gateway" 9 8 "other"
    let dialing : Dialing := ⟨20, .opened refusingPeer⟩
    let c := (new {}).run cancelledThenAccepted
    let d := (new {}).run refusedThenCancelled
    let first := (c.login dialing 1700000000000 3600000 credentials).report c.session
    let second := (d.login dialing 1700000000000 3600000 credentials).report d.session
    credentials.validate = .ok () ∧
      c.session.state = .connected ∧ d.session.state = .awaitingResponse ∧ first = second ∧
      second.told = [.status true "connection established", .login false 5 "no"] := by
  intro credentials dialing c d first second
  have hvalid : credentials.validate = .ok () := by decide +kernel
  have haccepted : c.session.state = .connected := by decide +kernel
  have hcancelled : d.session.state = .awaitingResponse := by decide +kernel
  have hsame : first = second := logins_isolated {} cancelledThenAccepted refusedThenCancelled
    credentials hvalid dialing 1700000000000 3600000
  -- What the one is told is what the other is told.
  have htold : first.told = [.status true "connection established", .login false 5 "no"] := by
    decide +kernel
  rw [hsame] at htold
  exact ⟨hvalid, haccepted, hcancelled, hsame, htold⟩

end Client

end GatewayLogin
