/-
Sessions that differ only in how much went on before.

What went on before stays in a session as numbers: which attempts and connections come next, and
what was counted.  Sessions are alike if nothing else tells them apart.  No operation of a login
looks at these numbers, so alike sessions answer alike, want the same done apart from the numbers,
count the same, and stay alike; `Session.startLogin_alike` says that the start of a login makes
sessions alike, whatever they were.
-/
import GatewayLogin.Proofs.Session.Told

namespace GatewayLogin

namespace Metrics

/-- What was counted since some earlier counters, as words. -/
def since (m before : Metrics) : Metrics where
  connectAttempts := m.connectAttempts - before.connectAttempts
  connectFailures := m.connectFailures - before.connectFailures
  connectTimeouts := m.connectTimeouts - before.connectTimeouts
  framesSent := m.framesSent - before.framesSent
  framesReceived := m.framesReceived - before.framesReceived
  bytesSent := m.bytesSent - before.bytesSent
  bytesReceived := m.bytesReceived - before.bytesReceived
  loginsAccepted := m.loginsAccepted - before.loginsAccepted
  loginsRejected := m.loginsRejected - before.loginsRejected
  decodeFaults := m.decodeFaults - before.decodeFaults

theorem since_self (m : Metrics) : m.since m = {} := by simp [since]

theorem since_count (m before : Metrics) (event : Event) :
    (m.count event).since before = (m.since before).count event := by
  have hshift (total earlier more : UInt64) : total + more - earlier = total - earlier + more := by
    grind
  cases event <;> simp [count, since, connectAttempt, connectFailed, connectTimedOut, frameSent,
    frameReceived, loginAccepted, loginRejected, decodeFault, hshift]

theorem since_count_congr {m n before other : Metrics} (h : m.since before = n.since other)
    (event : Event) : (m.count event).since before = (n.count event).since other := by
  rw [since_count, since_count, h]

theorem since_judged_congr {m n before other : Metrics} (h : m.since before = n.since other)
    (isFault : Bool) :
    (if isFault then m.decodeFault else m).since before =
      (if isFault then n.decodeFault else n).since other := by
  cases isFault with
  | true => exact since_count_congr h .decodeFault
  | false => exact h

end Metrics

namespace Effect

/-- The effect without the number of a connection or of an attempt. -/
def unnumbered : Effect → Effect
  | call _ made => .call 0 made
  | notify notification => .notify notification
  | log entry => .log { entry with
      fields := entry.fields.filter fun field => field.1 ≠ "attempt" }

/-- The frames that are written, in order. -/
def frames (effects : List Effect) : List Frame :=
  effects.filterMap fun
    | .call _ (.send frame) => some frame
    | _ => none

theorem notifications_unnumbered (effects : List Effect) :
    notifications (effects.map unnumbered) = notifications effects := by
  induction effects with
  | nil => rfl
  | cons effect rest ih => cases effect <;> simp [unnumbered, ih]

theorem frames_unnumbered (effects : List Effect) :
    frames (effects.map unnumbered) = frames effects := by
  rw [frames, List.filterMap_map]
  congr 1
  funext effect
  cases effect with
  | call connection made => cases made <;> rfl
  | notify | log => rfl

theorem frames_append (before after : List Effect) :
    frames (before ++ after) = frames before ++ frames after :=
  List.filterMap_append

end Effect

namespace Session

/-- Nothing tells two sessions apart but the numbers of attempts and connections, and what was
counted before.  The attempts that are waited for are left to the operations that take one. -/
structure Alike (before other : Metrics) (s t : Session) : Prop where
  settings : s.settings = t.settings
  state : s.state = t.state
  held : s.connection.isSome = t.connection.isSome
  pending : s.pending = t.pending
  inFlight : s.inFlight = t.inFlight
  identity : s.identity = t.identity
  requestId : s.requestId = t.requestId
  metrics : s.metrics.since before = t.metrics.since other

end Session

/-- Two operations on sessions come to the same, apart from numbers. -/
structure Step.Alike {α : Type} (before other : Metrics) (left right : Step α) : Prop where
  reply : left.reply = right.reply
  session : left.session.Alike before other right.session
  effects : left.effects.map Effect.unnumbered = right.effects.map Effect.unnumbered

namespace Session

variable {before other : Metrics} {s t : Session}

theorem frames_closing (s : Session) : Effect.frames s.closing = [] := by
  cases h : s.connection <;> simp [closing, h, Effect.frames]

/-- Two connections are held, or none. -/
theorem connection_cases (h : s.connection.isSome = t.connection.isSome) :
    (s.connection = none ∧ t.connection = none) ∨
      ∃ first second, s.connection = some first ∧ t.connection = some second := by
  cases hs : s.connection <;> cases ht : t.connection <;> simp_all

theorem closing_alike (h : s.connection.isSome = t.connection.isSome) :
    s.closing.map Effect.unnumbered = t.closing.map Effect.unnumbered := by
  rcases connection_cases h with ⟨hs, ht⟩ | ⟨first, second, hs, ht⟩ <;>
    simp [closing, hs, ht, Effect.unnumbered]

theorem dropping_alike (h : s.connection.isSome = t.connection.isSome) :
    s.dropping.map Effect.unnumbered = t.dropping.map Effect.unnumbered := by
  rcases connection_cases h with ⟨hs, ht⟩ | ⟨first, second, hs, ht⟩ <;>
    simp [dropping, hs, ht, Effect.unnumbered]

namespace Alike

theorem counted (h : s.Alike before other t) (event : Metrics.Event) :
    Alike before other { s with metrics := s.metrics.count event }
      { t with metrics := t.metrics.count event } :=
  ⟨h.settings, h.state, h.held, h.pending, h.inFlight, h.identity, h.requestId,
    Metrics.since_count_congr h.metrics event⟩

theorem failing (h : s.Alike before other t) (reason : FailureReason) :
    (s.failing reason).1.Alike before other (t.failing reason).1 ∧
      (s.failing reason).2.map Effect.unnumbered = (t.failing reason).2.map Effect.unnumbered := by
  refine ⟨⟨h.settings, rfl, rfl, rfl, rfl, h.identity, h.requestId, h.metrics⟩, ?_⟩
  simp only [Session.failing, List.map_append, closing_alike h.held]

theorem transportOpened (h : s.Alike before other t) {attempt twin : ConnectAttempt}
    (hs : s.isCurrent attempt = true) (ht : t.isCurrent twin = true) (first second : ConnectionId) :
    (s.transportOpened attempt first).Alike before other (t.transportOpened twin second) := by
  simp only [Session.transportOpened, hs, ht, if_true]
  refine ⟨rfl, ⟨h.settings, rfl, rfl, h.pending, h.inFlight, h.identity, h.requestId,
    h.metrics⟩, ?_⟩
  -- The attempts differ in the log alone, in the field that is left out.
  simp only [List.map_append, dropping_alike h.held]
  rfl

theorem timeoutElapsed (h : s.Alike before other t) {attempt twin : ConnectAttempt}
    (hs : s.isCurrent attempt = true) (ht : t.isCurrent twin = true) :
    (s.timeoutElapsed attempt).Alike before other (t.timeoutElapsed twin) := by
  simp only [Session.timeoutElapsed, hs, ht, if_true]
  obtain ⟨hsession, heffects⟩ := (h.counted .connectTimedOut).failing .connectTimeout
  exact ⟨rfl, hsession, heffects⟩

theorem connectFailed (h : s.Alike before other t) {attempt twin : ConnectAttempt}
    (hs : s.isCurrent attempt = true) (ht : t.isCurrent twin = true) (error : String) :
    (s.connectFailed attempt error).Alike before other (t.connectFailed twin error) := by
  simp only [Session.connectFailed, hs, ht, if_true]
  obtain ⟨hsession, heffects⟩ := (h.counted .connectFailed).failing (.connectFailed error)
  exact ⟨rfl, hsession, heffects⟩

theorem transportErrored (h : s.Alike before other t) (error : String) :
    (s.transportErrored error).Alike before other (t.transportErrored error) := by
  simp only [Session.transportErrored, h.state]
  split
  · obtain ⟨hsession, heffects⟩ := (h.counted .connectFailed).failing (.connectFailed error)
    exact ⟨rfl, hsession, heffects⟩
  · obtain ⟨hsession, heffects⟩ := h.failing (.transport error)
    exact ⟨rfl, hsession, heffects⟩
  · obtain ⟨hsession, heffects⟩ := h.failing (.transport error)
    exact ⟨rfl, hsession, heffects⟩
  · exact ⟨rfl, h, rfl⟩
  · exact ⟨rfl, h, rfl⟩

theorem sendSignIn (h : s.Alike before other t) (clock : UInt64)
    (write : Frame → Except Fault Unit) :
    (s.sendSignIn clock write).Alike before other (t.sendSignIn clock write) := by
  have hunpended : Alike before other { s with pending := none } { t with pending := none } :=
    ⟨h.settings, h.state, h.held, rfl, h.inFlight, h.identity, h.requestId, h.metrics⟩
  simp only [Session.sendSignIn, h.state, h.pending, h.settings] at hunpended ⊢
  split
  · exact ⟨rfl, h, rfl⟩
  · split
    · exact ⟨rfl, h, rfl⟩
    · rcases connection_cases h.held with ⟨hs, ht⟩ | ⟨first, second, hs, ht⟩
      · simp only [hs, ht] at hunpended ⊢
        exact ⟨rfl, hunpended, rfl⟩
      · simp only [hs, ht] at hunpended ⊢
        split
        · rename_i fault _
          obtain ⟨hfailed, hmade⟩ := hunpended.failing (.transport fault.message)
          refine ⟨rfl, hfailed, ?_⟩
          simp only [List.map_cons, hmade]
          rfl
        · exact ⟨rfl, ⟨rfl, rfl, rfl, rfl, rfl, h.identity, rfl,
            Metrics.since_count_congr h.metrics (.frameSent _)⟩, rfl⟩

theorem frameReceived (h : s.Alike before other t) (frame : Frame) :
    (s.frameReceived frame).Alike before other (t.frameReceived frame) := by
  have hreceived := h.counted (.frameReceived frame.length.toUInt64)
  have hjudged := Metrics.since_judged_congr hreceived.metrics (Packet.receive frame).isParseError
  by_cases hwaits : t.state = .awaitingResponse
  · have hwaits' : s.state = .awaitingResponse := h.state.trans hwaits
    simp only [Session.frameReceived, hwaits, hwaits', ne_eq, not_true_eq_false, if_false]
    cases (Packet.receive frame).isSuccess with
    | true =>
        exact ⟨rfl, ⟨h.settings, rfl, h.held, h.pending, rfl, h.inFlight, h.requestId,
          Metrics.since_count_congr hjudged .loginAccepted⟩, rfl⟩
    | false =>
        refine ⟨rfl, ⟨h.settings, rfl, rfl, h.pending, rfl, h.identity, h.requestId,
          Metrics.since_count_congr hjudged .loginRejected⟩, ?_⟩
        simp [closing_alike h.held]
  · have hwaits' : s.state ≠ .awaitingResponse := h.state ▸ hwaits
    simp only [Session.frameReceived, if_pos hwaits, if_pos hwaits']
    refine ⟨rfl, hreceived, ?_⟩
    simp only [h.state]

theorem transportClosed (h : s.Alike before other t) (reason : Option String) :
    (s.transportClosed reason).Alike before other (t.transportClosed reason) := by
  refine ⟨?_, ⟨h.settings, rfl, rfl, rfl, rfl, rfl, h.requestId, h.metrics⟩, ?_⟩
  · simp only [Session.transportClosed, h.state]
  · simp only [Session.transportClosed, List.map_append, dropping_alike h.held, h.state]

end Alike

/-- The start of a login leaves sessions with the same settings alike.  Only the connection that was
held shows, as it is closed first. -/
theorem startLogin_alike (hsettings : s.settings = t.settings) {credentials : Credentials}
    (hvalid : credentials.validate = .ok ()) :
    (s.startLogin credentials).session.Alike s.metrics t.metrics
        (t.startLogin credentials).session ∧
      ∃ made others, (s.startLogin credentials).effects = s.closing ++ made ∧
        (t.startLogin credentials).effects = t.closing ++ others ∧
        made.map Effect.unnumbered = others.map Effect.unnumbered := by
  have hzero : s.metrics.since s.metrics = t.metrics.since t.metrics :=
    (Metrics.since_self _).trans (Metrics.since_self _).symm
  simp only [startLogin, hvalid]
  refine ⟨⟨hsettings, rfl, rfl, rfl, rfl, rfl, rfl,
    Metrics.since_count_congr hzero .connectAttempt⟩, _, _, rfl, rfl, ?_⟩
  simp [Effect.unnumbered, numberField, textField, hsettings]

end Session

end GatewayLogin
