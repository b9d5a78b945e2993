/-
Connections: all that a session does with each connection over a run.

A connection is handed over once.  It is refused and closed at once, or it is taken, carries at most
one request, and stays with the session until one operation gives it up with a last call.  Main
statement: `Session.connections_given_up_once`.
-/
import GatewayLogin.Proofs.Session.Custody

namespace GatewayLogin

/-- The calls on one connection, in order. -/
def callsOn (connection : ConnectionId) (calls : List (ConnectionId × ConnectionCall)) :
    List ConnectionCall :=
  calls.filterMap fun made => if made.1 = connection then some made.2 else none

/-- The requests that are sent among some calls, each with its connection. -/
def requests (calls : List (ConnectionId × ConnectionCall)) : List (ConnectionId × Frame) :=
  calls.filterMap fun
    | (connection, .send frame) => some (connection, frame)
    | _ => none

/-- The connections that operations hand over, in order.  Whoever hands one over gives it away, so
none comes twice. -/
def handedOver (operations : List Operation) : List ConnectionId :=
  operations.filterMap Operation.handedOver?

theorem not_mem_handedOver_cons {connection : ConnectionId} {operation : Operation}
    {rest : List Operation} :
    connection ∉ handedOver (operation :: rest) ↔
      operation.handedOver? ≠ some connection ∧ connection ∉ handedOver rest := by
  cases h : operation.handedOver? with
  | none => simp [handedOver, h]
  | some other => simp [handedOver, h, eq_comm]

theorem handedOver_only_there {before after : List Operation} {attempt : ConnectAttempt}
    {connection : ConnectionId}
    (h : (handedOver (before ++ .transportOpened attempt connection :: after)).Nodup) :
    connection ∉ handedOver before ∧ connection ∉ handedOver after := by
  have hsplit : handedOver (before ++ .transportOpened attempt connection :: after) =
      handedOver before ++ connection :: handedOver after := by
    simp [handedOver, Operation.handedOver?]
  rw [hsplit, List.nodup_append] at h
  obtain ⟨-, hafter, hdisjoint⟩ := h
  refine ⟨?_, (List.nodup_cons.mp hafter).1⟩
  intro hmem
  exact hdisjoint connection hmem connection List.mem_cons_self rfl

@[simp] theorem callsOn_nil (connection : ConnectionId) : callsOn connection [] = [] := rfl

theorem callsOn_cons (connection : ConnectionId) (made : ConnectionId × ConnectionCall)
    (rest : List (ConnectionId × ConnectionCall)) :
    callsOn connection (made :: rest) =
      (if made.1 = connection then [made.2] else []) ++ callsOn connection rest := by
  rw [callsOn, List.filterMap_cons]
  split <;> simp_all [callsOn]

theorem callsOn_eq_nil {connection : ConnectionId}
    {calls : List (ConnectionId × ConnectionCall)} (h : ∀ made ∈ calls, made.1 ≠ connection) :
    callsOn connection calls = [] := by
  rw [callsOn, List.filterMap_eq_nil_iff]
  intro made hmade
  rw [if_neg (h made hmade)]

theorem callsOn_append (connection : ConnectionId)
    (before after : List (ConnectionId × ConnectionCall)) :
    callsOn connection (before ++ after) = callsOn connection before ++ callsOn connection after :=
  List.filterMap_append

theorem requests_append (before after : List (ConnectionId × ConnectionCall)) :
    requests (before ++ after) = requests before ++ requests after :=
  List.filterMap_append

theorem mem_requests_of_callsOn {connection : ConnectionId} {frame : Frame}
    {calls : List (ConnectionId × ConnectionCall)} (h : .send frame ∈ callsOn connection calls) :
    (connection, frame) ∈ requests calls := by
  obtain ⟨⟨other, call⟩, hmem, hcall⟩ := List.mem_filterMap.mp h
  obtain ⟨rfl, rfl⟩ : other = connection ∧ call = .send frame := by simpa using hcall
  exact List.mem_filterMap.mpr ⟨_, hmem, rfl⟩

namespace Custody

variable {custody next : Custody} {operation : Operation} {reply : Reply}
  {calls : List (ConnectionId × ConnectionCall)} {connection : ConnectionId}

/-- Nothing is done with a connection that is neither held nor handed over. -/
theorem Moves.untouched (h : custody.Moves operation reply calls next)
    (hheld : custody.connection ≠ some connection)
    (hover : operation.handedOver? ≠ some connection) :
    callsOn connection calls = [] ∧ next.connection ≠ some connection := by
  cases h with
  | kept | begun | abandoned => exact ⟨rfl, hheld⟩
  | accepted => exact ⟨rfl, hover⟩
  | refused => exact ⟨callsOn_eq_nil (by simpa [Operation.handedOver?] using hover), hheld⟩
  | sent => exact ⟨callsOn_eq_nil (by simpa using hheld), hheld⟩
  | superseded | unsent | givenUp =>
      exact ⟨callsOn_eq_nil (by simpa using hheld), Option.some_ne_none _ ∘ Eq.symm⟩

/-- A connection that is held stays, unless it is given up with a last call; before that a request
may be sent if one is owed. -/
theorem Moves.held {owing : Bool}
    (h : (⟨some connection, owing⟩ : Custody).Moves operation reply calls next)
    (hover : operation.handedOver? ≠ some connection) :
    ∃ request : Option Frame, (owing = false → request = none) ∧
      ((callsOn connection calls = request.toList.map .send ∧
          next = ⟨some connection, owing && request.isNone⟩) ∨
        ∃ call, GivesUp operation reply call ∧
          callsOn connection calls = request.toList.map .send ++ [call] ∧
          next.connection = none) := by
  cases h with
  | kept => exact ⟨none, fun _ => rfl, .inl ⟨rfl, by simp⟩⟩
  | superseded => exact ⟨none, fun _ => rfl, .inr ⟨_, .superseded, by simp [callsOn_cons], rfl⟩⟩
  | refused =>
      -- The connection that is refused is another one.
      exact ⟨none, fun _ => rfl,
        .inl ⟨callsOn_eq_nil (by simpa [Operation.handedOver?] using hover), by simp⟩⟩
  | @sent _ _ _ frame =>
      exact ⟨some frame, by simp, .inl ⟨by simp [callsOn_cons], by simp⟩⟩
  | @unsent _ _ _ frame =>
      exact ⟨some frame, by simp, .inr ⟨_, .unsent, by simp [callsOn_cons], rfl⟩⟩
  | givenUp hgives =>
      exact ⟨none, fun _ => rfl, .inr ⟨_, hgives, by simp [callsOn_cons], rfl⟩⟩

theorem Moves.opened {attempt : ConnectAttempt}
    (h : custody.Moves (.transportOpened attempt connection) reply calls next) :
    (reply = .taken false ∧ calls = [(connection, .close)] ∧ next = custody) ∨
      (reply = .taken true ∧ custody.connection = none ∧ calls = [] ∧
        next.connection = some connection) := by
  cases h with
  | refused => exact .inl ⟨rfl, rfl, rfl⟩
  | accepted => exact .inr ⟨rfl, rfl, rfl, rfl⟩
  | kept hover => simp [Operation.handedOver?] at hover
  | abandoned hover => simp [Operation.handedOver?] at hover
  | givenUp hgives => cases hgives

theorem requests_of_givesUp {call : ConnectionCall} (h : GivesUp operation reply call) :
    requests [(connection, call)] = [] := by
  cases h <;> rfl

/-- A request is sent only for a login that is owed, and then no longer. -/
theorem Moves.requests_le (h : custody.Moves operation reply calls next) :
    (requests calls).length + next.owing.toNat ≤
      custody.owing.toNat + (operation.begun? reply).toList.length := by
  cases h with
  | givenUp hgives => simp [requests_of_givesUp hgives]
  | _ => simp [requests, Operation.begun?, Operation.milestone?, Milestone.login?]

end Custody

namespace Session

variable {s : Session} {phase : Phase} {connection : ConnectionId}

/-- The calls that operations on a session make, in order. -/
def callsMade (s : Session) (operations : List Operation) : List (ConnectionId × ConnectionCall) :=
  Effect.calls (s.effects operations)

theorem callsMade_cons (s : Session) (operation : Operation) (rest : List Operation) :
    s.callsMade (operation :: rest) =
      Effect.calls (s.perform operation).effects
        ++ (s.perform operation).session.callsMade rest := by
  rw [callsMade, effects_cons, Effect.calls_append, callsMade]

theorem callsMade_append (s : Session) (before after : List Operation) :
    s.callsMade (before ++ after) = s.callsMade before ++ (s.run before).callsMade after := by
  rw [callsMade, effects_append, Effect.calls_append, callsMade, callsMade]

theorem callsMade_concat (s : Session) (before : List Operation) (operation : Operation) :
    s.callsMade (before ++ [operation]) =
      s.callsMade before ++ Effect.calls ((s.run before).perform operation).effects := by
  rw [callsMade_append, callsMade_cons]
  exact congrArg _ (List.append_nil _)

/-- What becomes of a connection that a session holds, with the last call on it: the session still
holds it after the operations, or one of them has given it up for good. -/
inductive Fate (s : Session) (connection : ConnectionId) (operations : List Operation) :
    Option ConnectionCall → Prop where
  | held (h : (s.run operations).connection = some connection) : Fate s connection operations none
  | givenUp (before : List Operation) (operation : Operation) (after : List Operation)
      {call : ConnectionCall} (hsplit : operations = before ++ operation :: after)
      (hheld : (s.run before).connection = some connection)
      (hgives : GivesUp operation ((s.run before).perform operation).reply call)
      (hgone : ((s.run before).perform operation).session.connection = none)
      (hnever : (s.run operations).connection ≠ some connection) :
      Fate s connection operations (some call)

theorem Fate.cons {operation : Operation} {rest : List Operation} {last : Option ConnectionCall}
    (h : (s.perform operation).session.Fate connection rest last) :
    s.Fate connection (operation :: rest) last := by
  cases h with
  | held hheld => exact .held hheld
  | givenUp before giving after hsplit hheld hgives hgone hnever =>
      exact .givenUp (operation :: before) giving after (by rw [hsplit]; rfl) hheld hgives hgone
        hnever

theorem untouched (h : s.At phase) (operations : List Operation)
    (hheld : s.connection ≠ some connection) (hover : connection ∉ handedOver operations) :
    callsOn connection (s.callsMade operations) = [] ∧
      (s.run operations).connection ≠ some connection := by
  induction operations generalizing s phase with
  | nil => exact ⟨rfl, hheld⟩
  | cons operation rest ih =>
      obtain ⟨hfirst, hlater⟩ := not_mem_handedOver_cons.mp hover
      obtain ⟨next, -, hnext⟩ := perform_leads h operation
      obtain ⟨hcalls, hstill⟩ := (perform_moves h operation).untouched hheld hfirst
      obtain ⟨hrest, hnever⟩ := ih hnext hstill hlater
      exact ⟨by rw [callsMade_cons, callsOn_append, hcalls, hrest]; rfl, hnever⟩

/-- A session that holds a connection sends over it what it owes, at most, and gives it up at most
once. -/
theorem fate_of_held (h : s.At phase) (operations : List Operation)
    (hheld : s.connection = some connection) (hover : connection ∉ handedOver operations) :
    ∃ (request : Option Frame) (last : Option ConnectionCall),
      (s.pending.isSome = false → request = none) ∧ s.Fate connection operations last ∧
        callsOn connection (s.callsMade operations) =
          request.toList.map .send ++ last.toList := by
  induction operations generalizing s phase with
  | nil => exact ⟨none, none, fun _ => rfl, .held hheld, rfl⟩
  | cons operation rest ih =>
      obtain ⟨hfirst, hlater⟩ := not_mem_handedOver_cons.mp hover
      obtain ⟨next, -, hnext⟩ := perform_leads h operation
      have hmoves := perform_moves h operation
      rw [custody, hheld] at hmoves
      obtain ⟨request, howed, ⟨hcalls, hcustody⟩ | ⟨call, hgives, hcalls, hgone⟩⟩ :=
        hmoves.held hfirst
      · simp only [custody, Custody.mk.injEq] at hcustody
        obtain ⟨later, last, hpaid, hfate, hrest⟩ := ih hnext hcustody.1 hlater
        rw [hcustody.2] at hpaid
        refine ⟨request.or later, last, ?_, hfate.cons, ?_⟩
        · intro hpending
          rw [howed hpending, hpaid (by rw [hpending]; rfl)]
          rfl
        · rw [callsMade_cons, callsOn_append, hcalls, hrest, ← List.append_assoc]
          -- What was sent now is not sent again.
          cases request with
          | none => rfl
          | some frame =>
              rw [hpaid (Bool.and_false _)]
              rfl
      · have hnever : (s.perform operation).session.connection ≠ some connection := by
          change (s.perform operation).session.custody.connection ≠ _
          simp [hgone]
        obtain ⟨hrest, hfinal⟩ := untouched hnext rest hnever hlater
        refine ⟨request, some call, howed, ?_, ?_⟩
        · exact .givenUp [] operation rest rfl hheld hgives hgone hfinal
        · rw [callsMade_cons, callsOn_append, hcalls, hrest, List.append_nil]
          rfl

theorem requests_le (h : s.At phase) (operations : List Operation) :
    (requests (s.callsMade operations)).length + (s.run operations).pending.isSome.toNat ≤
      s.pending.isSome.toNat + (s.logins operations).length := by
  induction operations generalizing s phase with
  | nil => simp [callsMade, effects, steps, requests, run]
  | cons operation rest ih =>
      obtain ⟨next, -, hnext⟩ := perform_leads h operation
      have hstep := (perform_moves h operation).requests_le
      have hrest := ih hnext
      rw [callsMade_cons, requests_append, List.length_append, logins_cons, List.length_append]
      simp only [custody] at hstep
      change _ + ((s.perform operation).session.run rest).pending.isSome.toNat ≤ _
      omega

/-- A connection that is handed over is refused and closed, or it is taken in the place of none. -/
theorem opened_fate (h : s.At phase) (attempt : ConnectAttempt) (after : List Operation)
    (hheld : s.connection ≠ some connection) (hover : connection ∉ handedOver after) :
    ((s.transportOpened attempt connection).reply = false ∧
        callsOn connection (s.callsMade (.transportOpened attempt connection :: after)) = [.close] ∧
        (s.run (.transportOpened attempt connection :: after)).connection ≠ some connection) ∨
      ((s.transportOpened attempt connection).reply = true ∧ s.connection = none ∧
        ∃ (request : Option Frame) (last : Option ConnectionCall),
          (s.transportOpened attempt connection).session.Fate connection after last ∧
          callsOn connection (s.callsMade (.transportOpened attempt connection :: after)) =
            request.toList.map .send ++ last.toList) := by
  obtain ⟨next, -, hnext⟩ := perform_leads h (.transportOpened attempt connection)
  rw [callsMade_cons, callsOn_append]
  rcases (perform_moves h (.transportOpened attempt connection)).opened with
    ⟨hreply, hcalls, hcustody⟩ | ⟨hreply, hfree, hcalls, htaken⟩
  · simp only [custody, Custody.mk.injEq] at hcustody
    obtain ⟨hrest, hnever⟩ := untouched hnext after (hcustody.1 ▸ hheld) hover
    refine .inl ⟨Reply.taken.inj hreply, ?_, hnever⟩
    rw [hcalls, hrest]
    simp [callsOn_cons]
  · obtain ⟨request, last, -, hfate, hrest⟩ := fate_of_held hnext after htaken hover
    exact .inr ⟨Reply.taken.inj hreply, hfree, request, last, hfate, by rw [hcalls, hrest]; rfl⟩

/-- Provided that no connection is handed over twice: one that is refused is closed and nothing
else; one that is taken replaces none, and the calls on it are at most one request and then, when it
is given up, one last call.  At most one request is sent for each login. -/
theorem connections_given_up_once (settings : ClientSettings) (operations : List Operation)
    (hmoved : (handedOver operations).Nodup) :
    (∀ before attempt connection after,
      operations = before ++ .transportOpened attempt connection :: after →
      ((((new settings).run before).transportOpened attempt connection).reply = false ∧
          callsOn connection ((new settings).callsMade operations) = [.close] ∧
          ((new settings).run operations).connection ≠ some connection) ∨
        ((((new settings).run before).transportOpened attempt connection).reply = true ∧
          ((new settings).run before).connection = none ∧
          ∃ (request : Option Frame) (last : Option ConnectionCall),
            (((new settings).run before).transportOpened attempt connection).session.Fate
              connection after last ∧
            callsOn connection ((new settings).callsMade operations) =
              request.toList.map .send ++ last.toList)) ∧
    (∀ before during after, operations = before ++ during ++ after →
      (requests (((new settings).run before).callsMade during)).length ≤
        (((new settings).run before).logins during).length + 1) ∧
    (requests ((new settings).callsMade operations)).length ≤
      ((new settings).logins operations).length := by
  refine ⟨?_, ?_, ?_⟩
  · rintro before attempt connection after rfl
    obtain ⟨phase, hat, -⟩ := run_at settings before
    have hsplit : handedOver (before ++ .transportOpened attempt connection :: after) =
        handedOver before ++ connection :: handedOver after := by
      simp [handedOver, Operation.handedOver?]
    rw [hsplit, List.nodup_append] at hmoved
    obtain ⟨-, hafter, hdisjoint⟩ := hmoved
    have hbefore : connection ∉ handedOver before :=
      fun hmem => hdisjoint connection hmem connection List.mem_cons_self rfl
    obtain ⟨hcalls, hheld⟩ := untouched (new_at settings) before (by simp [new]) hbefore
    rw [callsMade_append, callsOn_append, hcalls, run_append]
    exact opened_fate hat attempt after hheld (List.nodup_cons.mp hafter).1
  · rintro before during after rfl
    obtain ⟨phase, hat, -⟩ := run_at settings before
    have hle := requests_le hat during
    have hone := Bool.toNat_le ((new settings).run before).pending.isSome
    omega
  · have hle := requests_le (new_at settings) operations
    have hnone : (new settings).pending.isSome.toNat = 0 := rfl
    omega

/-- A second login while the first awaits its response, with a late connection for the first. -/
def supersededLogin : List Operation := [
  .startLogin ⟨"ws://gateway", 7, 8, "secret"⟩,
  .transportOpened ⟨1, .ofSeconds 5⟩ 1,
  .sendSignIn 1700000000000 fun _ => .ok (),
  .startLogin ⟨"ws://gateway", 7, 8, "secret"⟩,
  .transportOpened ⟨1, .ofSeconds 5⟩ 2,
  .transportOpened ⟨2, .ofSeconds 5⟩ 3,
  .transportClosed none]

theorem connections_of_supersededLogin :
    (handedOver supersededLogin).Nodup ∧
      (∃ (request : Option Frame) (last : Option ConnectionCall),
        (((new {}).run (supersededLogin.take 1)).transportOpened ⟨1, .ofSeconds 5⟩ 1).session.Fate 1
          (supersededLogin.drop 2) last ∧
        callsOn 1 ((new {}).callsMade supersededLogin) =
          request.toList.map .send ++ last.toList) ∧
      callsOn 2 ((new {}).callsMade supersededLogin) = [.close] ∧
      (requests ((new {}).callsMade supersededLogin)).length ≤
        ((new {}).logins supersededLogin).length := by
  have hmoved : (handedOver supersededLogin).Nodup := by decide
  obtain ⟨hfates, -, hrequests⟩ := connections_given_up_once {} supersededLogin hmoved
  have hfirst := hfates (supersededLogin.take 1) ⟨1, .ofSeconds 5⟩ 1 (supersededLogin.drop 2) rfl
  have hlate := hfates (supersededLogin.take 4) ⟨1, .ofSeconds 5⟩ 2 (supersededLogin.drop 5) rfl
  refine ⟨hmoved, ?_, ?_, hrequests⟩
  · exact (hfirst.resolve_left fun h => absurd h.1 (by decide +kernel)).2.2
  · exact (hlate.resolve_right fun h => absurd h.1 (by decide +kernel)).2.1

end Session

end GatewayLogin
