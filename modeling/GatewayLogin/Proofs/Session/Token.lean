/-
What a token shows in.

Credentials are twins if only their tokens differ, and these take the same room.  Sessions that hold
twins answer alike, want the same done and stay that way, as long as their connections answer alike
(`Session.perform_twins`).  The token shows in nothing but the frame that presents it, and in the
entry that spells this frame; `withoutToken` leaves out both and the token itself.  Main statement:
`Session.steps_withoutToken`.
-/
import Mathlib.Data.List.Forall2
import Mathlib.Data.Option.Basic
import GatewayLogin.Proofs.Session.Alike
import GatewayLogin.Proofs.Text.Utf8
import GatewayLogin.Session.Describe

namespace GatewayLogin

/-- Nothing tells the credentials apart but their tokens, which take the same room. -/
structure Credentials.Twins (c d : Credentials) : Prop where
  serverUrl : c.serverUrl = d.serverUrl
  userId : c.userId = d.userId
  deviceId : c.deviceId = d.deviceId
  token : (Text.utf8 c.token).length = (Text.utf8 d.token).length

namespace Credentials

/-- The credentials with the token struck out. -/
def withoutToken (c : Credentials) : Credentials := { c with token := redacted }

namespace Twins

variable {c d : Credentials}

theorem refl (c : Credentials) : c.Twins c := ⟨rfl, rfl, rfl, rfl⟩

/-- Raw input gives twins if the tokens take the same room without the blanks around them. -/
theorem of_input (serverUrl : String) (userId deviceId : UInt64) {token other : String}
    (h : (Text.utf8 (Text.trim token)).length = (Text.utf8 (Text.trim other)).length) :
    (Credentials.new serverUrl userId deviceId token).Twins
      (Credentials.new serverUrl userId deviceId other) :=
  ⟨rfl, rfl, rfl, h⟩

theorem withoutToken (h : c.Twins d) : c.withoutToken = d.withoutToken := by
  simp only [Credentials.withoutToken, h.serverUrl, h.userId, h.deviceId]

theorem describe (h : c.Twins d) : c.describe = d.describe := by
  unfold Credentials.describe
  rw [h.serverUrl, h.userId, h.deviceId]

theorem validate (h : c.Twins d) : c.validate = d.validate := by
  have hempty : c.token.isEmpty = d.token.isEmpty := by
    rw [Bool.eq_iff_iff, String.isEmpty_iff, String.isEmpty_iff, ← Text.utf8_eq_nil_iff,
      ← Text.utf8_eq_nil_iff, ← List.length_eq_zero_iff, h.token, List.length_eq_zero_iff]
  simp only [Credentials.validate, missing?, h.serverUrl, h.userId, h.deviceId, hempty]

end Twins

end Credentials

/-- The frame with every byte struck out. -/
def Frame.blank (frame : Frame) : Frame := List.replicate frame.length 0

theorem Frame.blank_congr {frame other : Frame} (h : frame.length = other.length) :
    blank frame = blank other := by
  rw [blank, blank, h]

theorem Block.length_encode_congr {bytes other : Bytes} (h : bytes.length = other.length) :
    (Block.encode bytes).length = (Block.encode other).length := by
  simp only [Block.encode, List.length_append, h]

theorem Packet.length_blockField_congr (tag : Tag) {bytes other : Bytes}
    (h : bytes.length = other.length) :
    (blockField tag bytes).length = (blockField tag other).length := by
  have hempty : bytes.isEmpty = other.isEmpty := by
    rw [Bool.eq_iff_iff, List.isEmpty_iff_length_eq_zero, List.isEmpty_iff_length_eq_zero, h]
  simp only [blockField, hempty]
  split
  · rfl
  · rw [List.length_append, List.length_append, Block.length_encode_congr h]

namespace Session

/-- The frames that present twins are as long and carry the same request id. -/
theorem signInFrame_twins (settings : ClientSettings) {c d : Credentials} (h : c.Twins d)
    (clock : UInt64) :
    (signInFrame settings c clock).1.length = (signInFrame settings d clock).1.length ∧
      (signInFrame settings c clock).2 = (signInFrame settings d clock).2 := by
  have hrequest : (SignInRequest.encode ⟨c.deviceId, c.userId, c.token⟩).length =
      (SignInRequest.encode ⟨d.deviceId, d.userId, d.token⟩).length := by
    simp only [SignInRequest.encode, List.length_append, h.deviceId, h.userId,
      Block.length_encode_congr h.token]
  simp only [signInFrame]
  split
  · refine ⟨?_, rfl⟩
    simp only [Packet.encode, List.length_append, Option.getD_some,
      Packet.length_blockField_congr _ hrequest]
  · exact ⟨hrequest, rfl⟩

end Session

/-- The entry with the bytes of the sign-in request struck out, if it tells of one. -/
def LogEntry.withoutToken (entry : LogEntry) : LogEntry :=
  if entry.level = .debug ∧ entry.message = "Sign-in request sent" then
    { entry with
      fields := entry.fields.map fun field => if field.1 = "hex" then (field.1, "") else field }
  else entry

/-- The effect with the bytes of a frame that is written struck out. -/
def Effect.withoutToken : Effect → Effect
  | call connection (.send frame) => call connection (.send (Frame.blank frame))
  | log entry => log entry.withoutToken
  | effect => effect

/-- The reply with the bytes of the frame that was written struck out. -/
def Reply.withoutToken : Reply → Reply
  | sent result => sent (result.map Frame.blank)
  | reply => reply

/-- The session with the token that is still to be sent struck out. -/
def Session.withoutToken (s : Session) : Session :=
  { s with pending := s.pending.map Credentials.withoutToken }

/-- All of a step but the token. -/
def Step.withoutToken (step : Step Reply) : Step Reply :=
  ⟨step.reply.withoutToken, step.session.withoutToken, step.effects.map Effect.withoutToken⟩

/-- Nothing tells the sessions apart but the token that is still to be sent. -/
def Session.Twins (s t : Session) : Prop :=
  ∃ pending, t = { s with pending } ∧ Option.Rel Credentials.Twins s.pending pending

/-- Nothing tells the steps apart but a token. -/
structure Step.Twins {α : Type} (left right : Step α) : Prop where
  reply : left.reply = right.reply
  session : left.session.Twins right.session
  effects : left.effects.map Effect.withoutToken = right.effects.map Effect.withoutToken

/-- Operations that are the same but for tokens and for what is asked of a connection. -/
inductive Operation.Twins : Operation → Operation → Prop where
  | startLogin {c d : Credentials} (h : c.Twins d) : Twins (.startLogin c) (.startLogin d)
  | sendSignIn (clock : UInt64) (write other : Frame → Except Fault Unit) :
      Twins (.sendSignIn clock write) (.sendSignIn clock other)
  | same (operation : Operation) : Twins operation operation

/-- What the connection answers to the frames that an operation writes. -/
def Operation.answers (operation : Operation) (effects : List Effect) : List (Except Fault Unit) :=
  match operation with
  | .sendSignIn _ write => (Effect.frames effects).map write
  | _ => []

namespace Session

variable {s t : Session}

/-- What connections answer in the course of some operations, one after another. -/
def answers (s : Session) : List Operation → List (List (Except Fault Unit))
  | [] => []
  | operation :: rest =>
      operation.answers (s.perform operation).effects ::
        (s.perform operation).session.answers rest

theorem Twins.refl (s : Session) : s.Twins s := by
  refine ⟨s.pending, rfl, ?_⟩
  cases s.pending with
  | none => exact .none
  | some c => exact .some (.refl c)

theorem Twins.withoutToken (h : s.Twins t) : s.withoutToken = t.withoutToken := by
  obtain ⟨pending, rfl, hpending⟩ := h
  generalize hheld : s.pending = held at hpending
  simp only [Session.withoutToken, hheld]
  cases hpending with
  | none => rfl
  | some htwins => rw [Option.map_some, Option.map_some, htwins.withoutToken]

end Session

namespace Step.Twins

theorem map {α β : Type} {left right : Step α} (h : left.Twins right) (f : α → β) :
    (left.map f).Twins (right.map f) :=
  ⟨congrArg f h.reply, h.session, h.effects⟩

theorem withoutToken {left right : Step Reply} (h : left.Twins right) :
    left.withoutToken = right.withoutToken := by
  simp only [Step.withoutToken, h.reply, h.session.withoutToken, h.effects]

end Step.Twins

namespace Session

variable {s t : Session}

theorem isCurrent_pending (s : Session) (pending : Option Credentials) (attempt : ConnectAttempt) :
    ({ s with pending } : Session).isCurrent attempt = s.isCurrent attempt := rfl

theorem startLogin_twins (h : s.Twins t) {c d : Credentials} (hcredentials : c.Twins d) :
    (s.startLogin c).Twins (t.startLogin d) := by
  obtain ⟨pending, rfl, hpending⟩ := h
  simp only [startLogin, hcredentials.validate, hcredentials.serverUrl, hcredentials.userId,
    hcredentials.deviceId]
  split
  · exact ⟨rfl, ⟨_, rfl, hpending⟩, rfl⟩
  · exact ⟨rfl, ⟨_, rfl, .some hcredentials⟩, rfl⟩

theorem transportOpened_twins (h : s.Twins t) (attempt : ConnectAttempt)
    (connection : ConnectionId) :
    (s.transportOpened attempt connection).Twins (t.transportOpened attempt connection) := by
  obtain ⟨pending, rfl, hpending⟩ := h
  cases hcurrent : s.isCurrent attempt with
  | true =>
      simp only [transportOpened, isCurrent_pending, hcurrent, if_true]
      exact ⟨rfl, ⟨_, rfl, hpending⟩, rfl⟩
  | false =>
      simp only [transportOpened, isCurrent_pending, hcurrent, Bool.false_eq_true, if_false]
      exact ⟨rfl, ⟨_, rfl, hpending⟩, rfl⟩

theorem timeoutElapsed_twins (h : s.Twins t) (attempt : ConnectAttempt) :
    (s.timeoutElapsed attempt).Twins (t.timeoutElapsed attempt) := by
  obtain ⟨pending, rfl, hpending⟩ := h
  cases hcurrent : s.isCurrent attempt with
  | true =>
      simp only [timeoutElapsed, isCurrent_pending, hcurrent, if_true]
      exact ⟨rfl, ⟨none, rfl, .none⟩, rfl⟩
  | false =>
      simp only [timeoutElapsed, isCurrent_pending, hcurrent, Bool.false_eq_true, if_false]
      exact ⟨rfl, ⟨_, rfl, hpending⟩, rfl⟩

theorem connectFailed_twins (h : s.Twins t) (attempt : ConnectAttempt) (error : String) :
    (s.connectFailed attempt error).Twins (t.connectFailed attempt error) := by
  obtain ⟨pending, rfl, hpending⟩ := h
  cases hcurrent : s.isCurrent attempt with
  | true =>
      simp only [connectFailed, isCurrent_pending, hcurrent, if_true]
      exact ⟨rfl, ⟨none, rfl, .none⟩, rfl⟩
  | false =>
      simp only [connectFailed, isCurrent_pending, hcurrent, Bool.false_eq_true, if_false]
      exact ⟨rfl, ⟨_, rfl, hpending⟩, rfl⟩

theorem transportErrored_twins (h : s.Twins t) (error : String) :
    (s.transportErrored error).Twins (t.transportErrored error) := by
  obtain ⟨pending, rfl, hpending⟩ := h
  simp only [transportErrored]
  split
  · exact ⟨rfl, ⟨none, rfl, .none⟩, rfl⟩
  · exact ⟨rfl, ⟨none, rfl, .none⟩, rfl⟩
  · exact ⟨rfl, ⟨none, rfl, .none⟩, rfl⟩
  · exact ⟨rfl, ⟨_, rfl, hpending⟩, rfl⟩
  · exact ⟨rfl, ⟨_, rfl, hpending⟩, rfl⟩

theorem frameReceived_twins (h : s.Twins t) (frame : Frame) :
    (s.frameReceived frame).Twins (t.frameReceived frame) := by
  obtain ⟨pending, rfl, hpending⟩ := h
  simp only [frameReceived]
  split
  · exact ⟨rfl, ⟨_, rfl, hpending⟩, rfl⟩
  · split
    · exact ⟨rfl, ⟨_, rfl, hpending⟩, rfl⟩
    · exact ⟨rfl, ⟨_, rfl, hpending⟩, rfl⟩

theorem transportClosed_twins (h : s.Twins t) (reason : Option String) :
    (s.transportClosed reason).Twins (t.transportClosed reason) := by
  obtain ⟨pending, rfl, hpending⟩ := h
  exact ⟨rfl, ⟨none, rfl, .none⟩, rfl⟩

theorem disconnect_twins (h : s.Twins t) : s.disconnect.Twins t.disconnect := by
  obtain ⟨pending, rfl, hpending⟩ := h
  exact ⟨rfl, ⟨none, rfl, .none⟩, rfl⟩

theorem frames_failing (s : Session) (reason : FailureReason) :
    Effect.frames (s.failing reason).2 = [] := by
  rw [failing, Effect.frames_append, frames_closing]
  rfl

/-- The entries for frames that present twins differ only in the bytes of these. -/
theorem sentEntry_twins {c d : Credentials} (h : c.Twins d) {frame other : Frame}
    (hframe : frame.length = other.length) (requestId : Option UInt64) :
    (sentEntry c frame requestId).withoutToken = (sentEntry d other requestId).withoutToken := by
  cases requestId <;>
    simp [sentEntry, LogEntry.withoutToken, numberField, textField, h.userId, h.deviceId, hframe]

section Open

variable {c : Credentials} {connection : ConnectionId}

/-- Over an open connection one frame is sent, whatever is answered to it. -/
theorem frames_sendSignIn (hstate : s.state = .connected) (hpending : s.pending = some c)
    (hconnection : s.connection = some connection) (clock : UInt64)
    (write : Frame → Except Fault Unit) :
    Effect.frames (s.sendSignIn clock write).effects = [(signInFrame s.settings c clock).1] := by
  simp only [sendSignIn, hstate, hpending, hconnection, ne_eq, not_true_eq_false, if_false]
  split
  · exact congrArg (List.cons _) (frames_failing _ _)
  · rfl

/-- The frame that was sent is the reply if it was taken. -/
theorem reply_sendSignIn (hstate : s.state = .connected) (hpending : s.pending = some c)
    (hconnection : s.connection = some connection) (clock : UInt64)
    (write : Frame → Except Fault Unit) :
    (s.sendSignIn clock write).reply =
      (write (signInFrame s.settings c clock).1).map fun _ =>
        (signInFrame s.settings c clock).1 := by
  simp only [sendSignIn, hstate, hpending, hconnection, ne_eq, not_true_eq_false, if_false]
  cases write (signInFrame s.settings c clock).1 <;> rfl

end Open

/-- If the connections answer alike, nothing tells the steps apart but the frame that is sent. -/
theorem sendSignIn_twins (h : s.Twins t) (clock : UInt64) (write other : Frame → Except Fault Unit)
    (hanswers : (Effect.frames (s.sendSignIn clock write).effects).map write =
      (Effect.frames (t.sendSignIn clock other).effects).map other) :
    ((s.sendSignIn clock write).map (Except.map Frame.blank)).Twins
      ((t.sendSignIn clock other).map (Except.map Frame.blank)) := by
  obtain ⟨pending, rfl, hpending⟩ := h
  by_cases hstate : s.state = .connected
  · generalize hheld : s.pending = held at hpending
    cases hpending with
    | none =>
        have hsame : ({ s with pending := none } : Session) = s := by rw [← hheld]
        rw [hsame]
        simp only [sendSignIn, hstate, hheld, ne_eq, not_true_eq_false, if_false]
        exact ⟨rfl, .refl s, rfl⟩
    | @some c d htwins =>
        cases hconnection : s.connection with
        | none =>
            simp only [sendSignIn, hstate, hheld, hconnection, ne_eq, not_true_eq_false, if_false]
            exact ⟨rfl, ⟨none, rfl, .none⟩, rfl⟩
        | some connection =>
            rw [frames_sendSignIn hstate hheld hconnection,
              frames_sendSignIn (s := { s with pending := some d }) hstate rfl hconnection,
              List.map_cons, List.map_cons, List.cons.injEq] at hanswers
            obtain ⟨hlength, hid⟩ := signInFrame_twins s.settings htwins clock
            have hblank := Frame.blank_congr hlength
            have hentry := sentEntry_twins htwins hlength (signInFrame s.settings d clock).2
            simp only [sendSignIn, hstate, hheld, hconnection, ne_eq, not_true_eq_false, if_false,
              hanswers.1, hid, hlength, htwins.userId, htwins.deviceId]
            split
            · refine ⟨rfl, ⟨none, rfl, .none⟩, ?_⟩
              simp only [Step.map, List.map_cons, Effect.withoutToken, hblank]
            · refine ⟨congrArg Except.ok hblank, ⟨none, rfl, .none⟩, ?_⟩
              simp only [Step.map, List.map_cons, Effect.withoutToken, hblank, hentry]
  · simp only [sendSignIn, hstate, ne_eq, not_false_eq_true, if_true]
    exact ⟨rfl, ⟨_, rfl, hpending⟩, rfl⟩

/-- An operation with another token comes to the same but for the token, if the connections answer
alike. -/
theorem perform_twins (h : s.Twins t) {operation other : Operation}
    (hoperation : operation.Twins other)
    (hanswers : operation.answers (s.perform operation).effects =
      other.answers (t.perform other).effects) :
    (s.perform operation).withoutToken = (t.perform other).withoutToken ∧
      (s.perform operation).session.Twins (t.perform other).session := by
  have hsent (clock : UInt64) (write other : Frame → Except Fault Unit)
      (hanswers : (Effect.frames (s.sendSignIn clock write).effects).map write =
        (Effect.frames (t.sendSignIn clock other).effects).map other) :
      (s.perform (.sendSignIn clock write)).withoutToken =
          (t.perform (.sendSignIn clock other)).withoutToken ∧
        (s.perform (.sendSignIn clock write)).session.Twins
          (t.perform (.sendSignIn clock other)).session := by
    have hstep := sendSignIn_twins h clock write other hanswers
    refine ⟨(Step.mk.injEq ..).mpr ⟨congrArg Reply.sent hstep.reply, ?_, hstep.effects⟩,
      hstep.session⟩
    exact hstep.session.withoutToken
  have hsame {α : Type} {left right : Step α} (f : α → Reply) (hstep : left.Twins right) :
      (left.map f).withoutToken = (right.map f).withoutToken ∧
        (left.map f).session.Twins (right.map f).session :=
    ⟨(hstep.map f).withoutToken, hstep.session⟩
  cases hoperation with
  | startLogin htwins => exact hsame .started (startLogin_twins h htwins)
  | sendSignIn clock write other => exact hsent clock write other hanswers
  | same =>
      cases operation with
      | startLogin c => exact hsame .started (startLogin_twins h (.refl c))
      | transportOpened attempt connection =>
          exact hsame .taken (transportOpened_twins h attempt connection)
      | timeoutElapsed attempt => exact hsame .taken (timeoutElapsed_twins h attempt)
      | connectFailed attempt error => exact hsame .taken (connectFailed_twins h attempt error)
      | transportErrored error => exact hsame .taken (transportErrored_twins h error)
      | sendSignIn clock write => exact hsent clock write write hanswers
      | frameReceived frame => exact hsame .answered (frameReceived_twins h frame)
      | transportClosed reason => exact hsame .taken (transportClosed_twins h reason)
      | disconnect => exact hsame (fun _ => .done) (disconnect_twins h)

/-- Runs that differ only in tokens, over connections that answer alike, come to the same step by
step but for the token. -/
theorem steps_withoutToken (h : s.Twins t) {operations others : List Operation}
    (hoperations : List.Forall₂ Operation.Twins operations others)
    (hanswers : s.answers operations = t.answers others) :
    (s.steps operations).map Step.withoutToken = (t.steps others).map Step.withoutToken := by
  induction hoperations generalizing s t with
  | nil => rfl
  | cons hfirst _ ih =>
      obtain ⟨hanswer, hlater⟩ := List.cons.inj hanswers
      obtain ⟨hstep, hnext⟩ := perform_twins h hfirst hanswer
      rw [steps, steps, List.map_cons, List.map_cons, hstep, ih hnext hlater]

end Session

end GatewayLogin
