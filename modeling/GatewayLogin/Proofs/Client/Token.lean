/-
What a token shows in when a client logs in.

Two clients make the same calls with other tokens, over links that behave alike: what a link answers
to the one frame, the other link answers to the other.  Then their turns come to the same but for
the frames that present the tokens (`Client.perform_twins`).  Main statement, for sessions and for
clients: `Client.token_shows_in_frames_alone`.
-/
import GatewayLogin.Proofs.Client.Conclusion
import GatewayLogin.Proofs.Session.Token

namespace GatewayLogin

/-- Links that behave alike, each towards its own frame. -/
structure Link.Twins (frame other : Frame) (link twin : Link) : Prop where
  write : link.write frame = twin.write other
  early : link.early = twin.early
  replies : link.replies frame = twin.replies other
  ends : link.ends = twin.ends
  tied : link.tied = twin.tied

/-- The same comes of requests to open a link, but for the links. -/
inductive DialAnswer.Twins (frame other : Frame) : DialAnswer → DialAnswer → Prop where
  | never : Twins frame other .never .never
  | failed (fault : Fault) : Twins frame other (.failed fault) (.failed fault)
  | opened {link twin : Link} (h : link.Twins frame other twin) :
      Twins frame other (.opened link) (.opened twin)

structure Dialing.Twins (frame other : Frame) (dialing twin : Dialing) : Prop where
  delay : dialing.delay = twin.delay
  answer : dialing.answer.Twins frame other twin.answer

/-- The caller sees the same, but for the links. -/
inductive DialOutcome.Twins (frame other : Frame) : DialOutcome → DialOutcome → Prop where
  | opened {link twin : Link} (h : link.Twins frame other twin) :
      Twins frame other (.opened link) (.opened twin)
  | failed (fault : Fault) : Twins frame other (.failed fault) (.failed fault)
  | timedOut : Twins frame other .timedOut .timedOut
  | abandoned : Twins frame other .abandoned .abandoned

/-- The client with the token that is still to be sent struck out. -/
def Client.withoutToken (c : Client) : Client :=
  { c with session := c.session.withoutToken }

/-- All of a turn but the token. -/
def Turn.withoutToken {α : Type} (turn : Turn α) : Turn α :=
  { turn with
    client := turn.client.withoutToken
    effects := turn.effects.map Effect.withoutToken }

/-- Nothing tells the clients apart but the token that is still to be sent. -/
structure Client.Twins (c d : Client) : Prop where
  session : c.session.Twins d.session
  inbox : c.inbox = d.inbox
  serverUrl : c.serverUrl = d.serverUrl
  links : c.links = d.links

/-- Nothing tells the waits apart but a token. -/
structure Client.Waited.Twins {α : Type} (left right : Waited α) : Prop where
  reply : left.reply = right.reply
  session : left.session.Twins right.session
  inbox : left.inbox = right.inbox
  effects : left.effects.map Effect.withoutToken = right.effects.map Effect.withoutToken

/-- Nothing tells the turns apart but a token. -/
structure Turn.Twins {α : Type} (left right : Turn α) : Prop where
  reply : left.reply = right.reply
  client : left.client.Twins right.client
  effects : left.effects.map Effect.withoutToken = right.effects.map Effect.withoutToken
  dialed : left.dialed = right.dialed
  waited : left.waited = right.waited

theorem Turn.Twins.map {α β : Type} {left right : Turn α} (h : left.Twins right) (f : α → β) :
    (left.map f).Twins (right.map f) :=
  ⟨congrArg (Option.map f) h.reply, h.client, h.effects, h.dialed, h.waited⟩

theorem Session.Twins.settings {s t : Session} (h : s.Twins t) : s.settings = t.settings := by
  obtain ⟨pending, rfl, -⟩ := h
  rfl

theorem Session.Twins.connection {s t : Session} (h : s.Twins t) :
    s.connection = t.connection := by
  obtain ⟨pending, rfl, -⟩ := h
  rfl

theorem DialAnswer.Twins.outcome {frame other : Frame} {answer twin : DialAnswer}
    (h : answer.Twins frame other twin) : answer.outcome.Twins frame other twin.outcome := by
  cases h with
  | never => exact .abandoned
  | failed fault => exact .failed fault
  | opened hlink => exact .opened hlink

theorem Dialing.Twins.due {frame other : Frame} {dialing twin : Dialing}
    (h : dialing.Twins frame other twin) : dialing.due? = twin.due? := by
  obtain ⟨hdelay, hanswer⟩ := h
  simp only [Dialing.due?, hdelay]
  generalize dialing.answer = first at hanswer ⊢
  generalize twin.answer = second at hanswer ⊢
  cases hanswer <;> rfl

/-- Who waits for links that behave alike waits as long and sees the same. -/
theorem Dialing.Twins.awaited {frame other : Frame} {dialing twin : Dialing}
    (h : dialing.Twins frame other twin) (timeout patience : Nat) :
    (dialing.await timeout patience).1.Twins frame other (twin.await timeout patience).1 ∧
      (dialing.await timeout patience).2 = (twin.await timeout patience).2 := by
  simp only [Dialing.await, h.due, h.delay]
  split_ifs
  · exact ⟨.abandoned, rfl⟩
  · exact ⟨h.answer.outcome, rfl⟩
  · exact ⟨.abandoned, rfl⟩
  · exact ⟨.timedOut, rfl⟩

theorem Client.Twins.withoutToken {c d : Client} (h : c.Twins d) :
    c.withoutToken = d.withoutToken := by
  simp only [Client.withoutToken, h.session.withoutToken, h.inbox, h.serverUrl, h.links]

theorem Turn.Twins.withoutToken {α : Type} {left right : Turn α} (h : left.Twins right) :
    left.withoutToken = right.withoutToken := by
  simp only [Turn.withoutToken, h.reply, h.client.withoutToken, h.effects, h.dialed, h.waited]

namespace Client

variable {s t : Session} {c d : Client}

/-- Calls that are the same but for the token and for what is asked of the link that is opened. -/
inductive Call.Twins (settings : ClientSettings) : Call → Call → Prop where
  | login {c d : Credentials} {dialing twin : Dialing} {clock : UInt64} (patience : Nat)
      (h : c.Twins d)
      (hdialing : dialing.Twins (Session.signInFrame settings c clock).1
        (Session.signInFrame settings d clock).1 twin) :
      Twins settings (.login c dialing clock patience) (.login d twin clock patience)
  | waitClosed (patience : Nat) : Twins settings (.waitClosed patience) (.waitClosed patience)
  | disconnect : Twins settings .disconnect .disconnect

theorem isOver_twins (h : s.Twins t) (inbox : Inbox) : isOver inbox s = isOver inbox t := by
  rw [isOver, isOver, h.connection]

theorem awaitResponse_twins (h : s.Twins t) (hasTime : Bool) (later : Inbox)
    (events : List LinkEvent) :
    (awaitResponse hasTime later s events).Twins (awaitResponse hasTime later t events) := by
  induction events generalizing s t with
  | nil =>
      simp only [awaitResponse, isOver_twins h]
      split
      · obtain ⟨-, hsession, heffects⟩ := Session.transportClosed_twins h none
        exact ⟨rfl, hsession, rfl, heffects⟩
      · exact ⟨rfl, h, rfl, rfl⟩
  | cons event rest ih =>
      cases event with
      | message frame =>
          obtain ⟨hreply, hsession, heffects⟩ := Session.frameReceived_twins h frame
          simp only [awaitResponse, hreply]
          split
          · exact ⟨rfl, hsession, rfl, heffects⟩
          · obtain ⟨hanswer, hlast, hinbox, hmore⟩ := ih hsession
            refine ⟨hanswer, hlast, hinbox, ?_⟩
            simp only [List.map_append, heffects, hmore]
      | errored text =>
          obtain ⟨-, hsession, heffects⟩ := Session.transportErrored_twins h text
          exact ⟨rfl, hsession, rfl, heffects⟩
      | closed reason =>
          obtain ⟨-, hsession, heffects⟩ := Session.transportClosed_twins h reason
          exact ⟨rfl, hsession, rfl, heffects⟩

theorem awaitClosed_twins (h : s.Twins t) (later : Inbox) (events : List LinkEvent) :
    (awaitClosed later s events).Twins (awaitClosed later t events) := by
  induction events generalizing s t with
  | nil =>
      simp only [awaitClosed, isOver_twins h]
      split
      · obtain ⟨-, hsession, heffects⟩ := Session.transportClosed_twins h none
        refine ⟨rfl, hsession, rfl, ?_⟩
        simp only [List.map_cons, heffects]
      · exact ⟨rfl, h, rfl, rfl⟩
  | cons event rest ih =>
      cases event with
      | message frame =>
          obtain ⟨-, hsession, heffects⟩ := Session.frameReceived_twins h frame
          obtain ⟨hanswer, hlast, hinbox, hmore⟩ := ih hsession
          refine ⟨hanswer, hlast, hinbox, ?_⟩
          simp only [awaitClosed, List.map_append, heffects, hmore]
      | errored text =>
          obtain ⟨-, hsession, heffects⟩ := Session.transportErrored_twins h text
          obtain ⟨hanswer, hlast, hinbox, hmore⟩ := ih hsession
          refine ⟨hanswer, hlast, hinbox, ?_⟩
          simp only [awaitClosed, List.map_append, heffects, hmore]
      | closed reason =>
          obtain ⟨-, hsession, heffects⟩ := Session.transportClosed_twins h reason
          exact ⟨rfl, hsession, rfl, heffects⟩

/-- What the requests of twins bring to links that behave alike. -/
theorem answering_twins {frame other : Frame} {link twin : Link} (h : link.Twins frame other twin)
    (hasTime : Bool) : link.answering frame hasTime = twin.answering other hasTime := by
  simp only [Link.answering, h.early, h.replies, h.ends, h.tied]

/-- Over links that behave alike twins are both presented, each in a frame of its own, or neither
is. -/
theorem sent_twins (h : s.Twins t) {first second : Login} {connection : ConnectionId}
    (hs : s.At (.opened first connection)) (ht : t.At (.opened second connection)) (clock : UInt64)
    {link twin : Link}
    (hlink : link.Twins (Session.signInFrame s.settings first.credentials clock).1
      (Session.signInFrame s.settings second.credentials clock).1 twin) :
    let sent := s.sendSignIn clock link.write
    let same := t.sendSignIn clock twin.write
    ((∃ fault, sent.reply = .error fault ∧ same.reply = .error fault) ∨
        ∃ frame other, sent.reply = .ok frame ∧ same.reply = .ok other ∧
          link.Twins frame other twin) ∧
      sent.session.Twins same.session ∧
      sent.effects.map Effect.withoutToken = same.effects.map Effect.withoutToken := by
  intro sent same
  have hsent := Session.reply_sendSignIn hs.state hs.pending hs.connection clock link.write
  have hsame := Session.reply_sendSignIn ht.state ht.pending ht.connection clock twin.write
  have hanswers : (Effect.frames sent.effects).map link.write =
      (Effect.frames same.effects).map twin.write := by
    rw [Session.frames_sendSignIn hs.state hs.pending hs.connection,
      Session.frames_sendSignIn ht.state ht.pending ht.connection, List.map_singleton,
      List.map_singleton, hlink.write, h.settings]
  obtain ⟨-, hsession, heffects⟩ := Session.sendSignIn_twins h clock _ _ hanswers
  refine ⟨?_, hsession, heffects⟩
  rw [hlink.write] at hsent
  rw [← h.settings] at hsame
  cases hwrite : twin.write (Session.signInFrame s.settings second.credentials clock).1 with
  | error fault =>
      rw [hwrite] at hsent hsame
      exact .inl ⟨fault, hsent, hsame⟩
  | ok _ =>
      rw [hwrite] at hsent hsame
      exact .inr ⟨_, _, hsent, hsame, hlink⟩

theorem signIn_twins (h : c.Twins d) {first second : Login}
    (hc : c.session.At (.dialing first)) (hd : d.session.At (.dialing second))
    (hattempt : second.attempt = first.attempt) (clock : UInt64) (hasTime : Bool) {link twin : Link}
    (hlink : link.Twins (Session.signInFrame c.session.settings first.credentials clock).1
      (Session.signInFrame c.session.settings second.credentials clock).1 twin) :
    (c.signIn first.attempt clock hasTime link).Twins
      (d.signIn first.attempt clock hasTime twin) := by
  obtain ⟨htaken, hup⟩ := hc.transportOpened (c.links + 1)
  obtain ⟨htaken', hup'⟩ := hd.transportOpened (c.links + 1)
  rw [hattempt] at htaken' hup'
  obtain ⟨-, hopened, hmade⟩ :=
    Session.transportOpened_twins h.session first.attempt (c.links + 1)
  have hsettings := c.session.perform_settings (.transportOpened first.attempt (c.links + 1))
  rw [← hsettings] at hlink
  obtain ⟨hreply, hsent, hmore⟩ := sent_twins hopened hup hup' clock hlink
  simp only [signIn, ← h.links, htaken, htaken', if_true]
  rcases hreply with ⟨fault, hfault, hfault'⟩ | ⟨frame, other, hframe, hframe', hanswered⟩
  · simp only [hfault, hfault']
    refine ⟨rfl, ⟨hsent, ?_, h.serverUrl, rfl⟩, ?_, rfl, rfl⟩
    · simp only [Link.untouched, hlink.early, hlink.ends, hlink.tied]
    · simp only [List.map_append, hmade, hmore]
  · simp only [hframe, hframe', answering_twins hanswered]
    obtain ⟨hlast, hsession, hinbox, hrest⟩ := awaitResponse_twins hsent hasTime
      (twin.answering other hasTime).2 (twin.answering other hasTime).1
    refine ⟨hlast, ⟨hsession, hinbox, h.serverUrl, rfl⟩, ?_, rfl, rfl⟩
    simp only [List.map_append, hmade, hmore, hrest]

theorem afterDialing_twins (h : c.Twins d) {first second : Login}
    (hc : c.session.At (.dialing first)) (hd : d.session.At (.dialing second))
    (hattempt : second.attempt = first.attempt) (clock : UInt64) (hasTime : Bool)
    {outcome same : DialOutcome}
    (houtcome : outcome.Twins (Session.signInFrame c.session.settings first.credentials clock).1
      (Session.signInFrame c.session.settings second.credentials clock).1 same) :
    (c.afterDialing first.attempt clock hasTime outcome).Twins
      (d.afterDialing first.attempt clock hasTime same) := by
  obtain ⟨-, htimedOut, htold⟩ := Session.timeoutElapsed_twins h.session first.attempt
  have hover : Turn.Twins (c.afterDialing first.attempt clock hasTime .timedOut)
      (d.afterDialing first.attempt clock hasTime .timedOut) :=
    ⟨rfl, ⟨htimedOut, h.inbox, h.serverUrl, h.links⟩, htold, rfl, rfl⟩
  cases houtcome with
  | opened hlink => exact signIn_twins h hc hd hattempt clock hasTime hlink
  | timedOut => exact hover
  | abandoned => exact ⟨rfl, h, rfl, rfl, rfl⟩
  | failed fault =>
      obtain ⟨-, hfailed, hmade⟩ :=
        Session.connectFailed_twins h.session first.attempt fault.message
      cases fault with
      | connectTimeout => exact hover
      | _ => exact ⟨rfl, ⟨hfailed, h.inbox, h.serverUrl, h.links⟩, hmade, rfl, rfl⟩

theorem login_twins (h : c.Twins d) {credentials others : Credentials}
    (hcredentials : credentials.Twins others) {dialing twin : Dialing} (clock : UInt64)
    (patience : Nat)
    (hdialing : dialing.Twins (Session.signInFrame c.session.settings credentials clock).1
      (Session.signInFrame c.session.settings others clock).1 twin) :
    (c.login dialing clock patience credentials).Twins
      (d.login twin clock patience others) := by
  obtain ⟨hreply, hstarted, hmade⟩ := Session.startLogin_twins h.session hcredentials
  simp only [login, hreply]
  cases hsame : (d.session.startLogin others).reply with
  | error fault => exact ⟨rfl, ⟨hstarted, rfl, h.serverUrl, h.links⟩, hmade, rfl, rfl⟩
  | ok attempt =>
      have hc : (c.startingLogin credentials).session.At (.dialing ⟨credentials, attempt⟩) :=
        Session.startLogin_at (hreply.trans hsame)
      have hd : (d.startingLogin others).session.At (.dialing ⟨others, attempt⟩) :=
        Session.startLogin_at hsame
      have hboth : (c.startingLogin credentials).Twins (d.startingLogin others) :=
        ⟨hstarted, rfl, h.serverUrl, h.links⟩
      have hsettings := c.session.perform_settings (.startLogin credentials)
      rw [← hsettings] at hdialing
      obtain ⟨hseen, hwaited⟩ := hdialing.awaited attempt.timeout.ticks patience
      obtain ⟨hanswer, hclient, hmore, -, -⟩ :=
        afterDialing_twins hboth hc hd rfl clock
          ((twin.await attempt.timeout.ticks patience).2 < patience) hseen
      simp only [startingLogin] at hanswer hclient hmore
      simp only [hwaited]
      refine ⟨hanswer, hclient, ?_, ?_, ?_⟩
      · simp only [List.map_append, List.map_cons, hmade, hmore]
      · simp only [hcredentials.serverUrl]
      · simp only [hanswer]

theorem waitClosed_twins (h : c.Twins d) (patience : Nat) :
    (c.waitClosed patience).Twins (d.waitClosed patience) := by
  simp only [waitClosed, ← h.inbox]
  cases hinbox : c.inbox with
  | none => exact ⟨rfl, h, rfl, rfl, rfl⟩
  | some inbox =>
      obtain ⟨hreply, hsession, hlater, heffects⟩ :=
        awaitClosed_twins h.session { inbox with events := [] } inbox.events
      exact ⟨hreply, ⟨hsession, hlater, h.serverUrl, h.links⟩, heffects, rfl, by simp only [hreply]⟩

theorem disconnect_twins (h : c.Twins d) : c.disconnect.Twins d.disconnect := by
  obtain ⟨-, hsession, heffects⟩ := Session.disconnect_twins h.session
  refine ⟨rfl, ⟨hsession, rfl, h.serverUrl, h.links⟩, ?_, rfl, rfl⟩
  obtain ⟨pending, hmetrics, -⟩ := hsession
  simp only [disconnect, List.map_append, heffects, hmetrics]

theorem perform_twins (h : c.Twins d) {call other : Call}
    (hcall : call.Twins c.session.settings other) : (c.perform call).Twins (d.perform other) := by
  cases hcall with
  | login patience hcredentials hdialing =>
      exact (login_twins h hcredentials _ patience hdialing).map ClientReply.login
  | waitClosed patience => exact (waitClosed_twins h patience).map fun _ => ClientReply.done
  | disconnect => exact (disconnect_twins h).map fun _ => ClientReply.done

theorem perform_settings (c : Client) (call : Call) :
    (c.perform call).client.session.settings = c.session.settings := by
  obtain ⟨operations, hrun⟩ := c.perform_reaches call
  rw [← hrun, Session.run_settings]

/-- Calls that differ only in tokens, over links that behave alike, come to the same turn by turn
but for the tokens. -/
theorem turns_withoutToken (h : c.Twins d) {calls others : List Call}
    (hcalls : List.Forall₂ (Call.Twins c.session.settings) calls others) :
    (c.turns calls).map Turn.withoutToken = (d.turns others).map Turn.withoutToken := by
  generalize hsettings : c.session.settings = settings at hcalls
  induction hcalls generalizing c d with
  | nil => rfl
  | cons hfirst _ ih =>
      rw [← hsettings] at hfirst
      have hturn := perform_twins h hfirst
      rw [turns, turns, List.map_cons, List.map_cons, hturn.withoutToken,
        ih hturn.client ((c.perform_settings _).trans hsettings)]

/-- A token shows in nothing but the frame that presents it, and in the bytes of this frame that are
spelled out in the log.  With other tokens of the same length, credentials are described and judged
the same.  Sessions with the same settings that go through the same operations, over connections
that answer alike, come to the same step by step: what is answered, told, counted and written to the
log, the calls, the session itself and its description.  So do clients that make the same calls over
links that behave alike. -/
theorem token_shows_in_frames_alone (settings : ClientSettings) :
    (∀ c d : Credentials, c.Twins d → c.describe = d.describe ∧ c.validate = d.validate) ∧
    (∀ operations others : List Operation,
      List.Forall₂ Operation.Twins operations others →
      (Session.new settings).answers operations = (Session.new settings).answers others →
      let steps := (Session.new settings).steps operations
      let same := (Session.new settings).steps others
      steps.map Step.withoutToken = same.map Step.withoutToken ∧
        steps.map (fun step => step.session.describe) =
          same.map (fun step => step.session.describe)) ∧
    ∀ calls others : List Call,
      List.Forall₂ (Call.Twins settings) calls others →
      let turns := (new settings).turns calls
      let same := (new settings).turns others
      turns.map Turn.withoutToken = same.map Turn.withoutToken ∧
        turns.map (fun turn => turn.client.session.describe) =
          same.map (fun turn => turn.client.session.describe) := by
  refine ⟨fun c d h => ⟨h.describe, h.validate⟩, ?_, ?_⟩
  · intro operations others hoperations hanswers steps same
    have hsteps := Session.steps_withoutToken (.refl _) hoperations hanswers
    -- A description leaves out the credentials that are still to be presented.
    have hdescribed := congrArg (List.map fun step => step.session.describe) hsteps
    rw [List.map_map, List.map_map] at hdescribed
    exact ⟨hsteps, hdescribed⟩
  · intro calls others hcalls turns same
    have hturns := turns_withoutToken (c := new settings) ⟨.refl _, rfl, rfl, rfl⟩ hcalls
    have hdescribed := congrArg (List.map fun turn => turn.client.session.describe) hturns
    rw [List.map_map, List.map_map] at hdescribed
    exact ⟨hturns, hdescribed⟩

/-- What a session that signs in goes through until it is refused. -/
def refusal (token : String) : List Operation := [
  .startLogin (.new "ws://gateway" 7 8 token),
  .transportOpened ⟨1, ({} : ClientSettings).connectTimeout⟩ 1,
  .sendSignIn 1700000000000 fun _ => .ok (),
  .frameReceived [24, 5, 34, 2, 110, 111]]

def refusedCalls (token : String) : List Call := [
  .login (.new "ws://gateway" 7 8 token) ⟨20, .opened refusingPeer⟩ 1700000000000 3600000,
  .waitClosed 3600000,
  .disconnect]

theorem refusal_hides_token :
    let steps := (Session.new {}).steps (refusal " secret")
    let same := (Session.new {}).steps (refusal "hunter\n")
    let turns := (new {}).turns (refusedCalls " secret")
    let sameTurns := (new {}).turns (refusedCalls "hunter\n")
    steps.map (fun step => Effect.frames step.effects) ≠
        same.map (fun step => Effect.frames step.effects) ∧
      steps.map Step.withoutToken = same.map Step.withoutToken ∧
      turns.map (fun turn => Effect.frames turn.effects) ≠
        sameTurns.map (fun turn => Effect.frames turn.effects) ∧
      turns.map Turn.withoutToken = sameTurns.map Turn.withoutToken := by
  intro steps same turns sameTurns
  have htwins : (Credentials.new "ws://gateway" 7 8 " secret").Twins
      (Credentials.new "ws://gateway" 7 8 "hunter\n") :=
    .of_input "ws://gateway" 7 8 (by decide +kernel)
  have hlink (frame other : Frame) : refusingPeer.Twins frame other refusingPeer :=
    ⟨rfl, rfl, rfl, rfl, rfl⟩
  obtain ⟨-, hsession, hclient⟩ := token_shows_in_frames_alone {}
  obtain ⟨hsteps, -⟩ := hsession (refusal " secret") (refusal "hunter\n")
    (.cons (.startLogin htwins) (.cons (.same _) (.cons (.sendSignIn ..) (.cons (.same _) .nil))))
    (by decide +kernel)
  obtain ⟨hturns, -⟩ := hclient (refusedCalls " secret") (refusedCalls "hunter\n")
    (.cons (.login _ htwins ⟨rfl, .opened (hlink _ _)⟩)
      (.cons (.waitClosed _) (.cons .disconnect .nil)))
  exact ⟨by decide +kernel, hsteps, by decide +kernel, hturns⟩

end Client

end GatewayLogin
