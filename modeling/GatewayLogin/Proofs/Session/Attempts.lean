/-
Attempts: what comes with the handle of an attempt to connect, and when it is taken up.

Handles are numbered, so while the numbers last no two logins are answered the same one.  A handle
is taken up at most once, by whatever comes first while the session waits for it; all else that
comes with it is without effect.  Main statement: `Session.attempts_taken_once`.
-/
import GatewayLogin.Proofs.Session.Custody
import GatewayLogin.Proofs.Session.Identity
import Mathlib.Algebra.Group.Nat.Defs
import Mathlib.Data.List.Nodup

namespace GatewayLogin

/-- The attempt that an operation reports on. -/
def Operation.attempt? : Operation → Option ConnectAttempt
  | .transportOpened attempt _ | .timeoutElapsed attempt | .connectFailed attempt _ => some attempt
  | _ => none

/-- Whether a reply says that an event was taken up. -/
def Reply.isTaken : Reply → Bool
  | .taken changed => changed
  | _ => false

/-- Only `startLogin` begins logins. -/
theorem Operation.begun?_eq_none {operation : Operation} (reply : Reply)
    (h : ∀ credentials, operation ≠ .startLogin credentials) : operation.begun? reply = none := by
  unfold begun? milestone?
  split
  · exact absurd rfl (h _)
  · rfl
  · split <;> rfl
  · rfl

namespace Phase

variable {phase next : Phase} {operation : Operation} {reply : Reply} {attempt : ConnectAttempt}

/-- A handle that is waited for was waited for before, or has just been answered. -/
theorem Leads.timer_cases (h : phase.Leads operation reply next)
    (hnext : next.timer? = some attempt) :
    phase.timer? = some attempt ∨ (operation.begun? reply).map Login.attempt = some attempt := by
  cases h with
  | begun => exact .inr hnext
  | refused | openedLate | timedOutLate | unreachedLate | erroredLate | sentUnopened
  | unsolicited =>
      exact .inl hnext
  | _ => simp [timer?] at hnext

/-- A handle is taken up only while it is waited for, and not waited for again. -/
theorem Leads.taken (h : phase.Leads operation reply next)
    (hattempt : operation.attempt? = some attempt) (htaken : reply.isTaken = true) :
    phase.timer? = some attempt ∧ next.timer? = none := by
  cases h with
  | opened | timedOut | unreached => exact ⟨hattempt, rfl⟩
  | openedLate | timedOutLate | unreachedLate => simp [Reply.isTaken] at htaken
  | _ => simp [Operation.attempt?] at hattempt

/-- Whoever starts over waits for nothing but the handle that is answered. -/
theorem Leads.timer_of_startsOver (h : phase.Leads operation reply next)
    (hover : operation.startsOver = true) :
    next.timer? = (operation.begun? reply).map Login.attempt := by
  cases h with
  | refused hfault => simp [Operation.startsOver, hfault, Except.isOk, Except.toBool] at hover
  | begun | closed | disconnected => rfl
  | _ => simp [Operation.startsOver] at hover

end Phase

namespace Session

variable {s : Session} {phase : Phase} {attempt : ConnectAttempt}

/-- An operation begins no login and leaves the count, or it begins one with the next number. -/
theorem perform_attempts (s : Session) (operation : Operation) :
    (operation.begun? (s.perform operation).reply = none ∧
        (s.perform operation).session.attempts = s.attempts) ∨
      ∃ login, operation.begun? (s.perform operation).reply = some login ∧
        login.attempt.id = s.attempts + 1 ∧
        (s.perform operation).session.attempts = s.attempts + 1 := by
  cases operation with
  | startLogin credentials =>
      simp only [perform, Step.map, startLogin]
      split
      · exact .inl ⟨rfl, rfl⟩
      · exact .inr ⟨_, rfl, rfl, rfl⟩
  | transportOpened | timeoutElapsed | connectFailed | transportErrored | sendSignIn
  | frameReceived =>
      refine .inl ⟨Operation.begun?_eq_none _ (by simp), ?_⟩
      simp only [perform, Step.map, transportOpened, timeoutElapsed, connectFailed,
        transportErrored, sendSignIn, frameReceived]
      -- Every branch leaves the count alone.
      repeat' split
      all_goals rfl
  | transportClosed | disconnect => exact .inl ⟨rfl, rfl⟩

/-- The handles that are answered are numbered one after the other. -/
theorem logins_numbered (s : Session) (operations : List Operation) :
    (s.logins operations).map (fun login => login.attempt.id) =
      (List.range (s.logins operations).length).map
        fun index => s.attempts + 1 + UInt64.ofNat index := by
  induction operations generalizing s with
  | nil => rfl
  | cons operation rest ih =>
      rw [logins_cons]
      rcases s.perform_attempts operation with ⟨hnone, hcount⟩ | ⟨login, hbegun, hid, hcount⟩
      · rw [hnone, Option.toList_none, List.nil_append, ih, hcount]
      · rw [hbegun, Option.toList_some, List.singleton_append, List.map_cons, List.length_cons,
          List.range_succ_eq_map, List.map_cons, List.map_map, ih, hid, hcount]
        refine congrArg₂ List.cons (UInt64.add_zero _).symm (List.map_congr_left fun index _ => ?_)
        change s.attempts + 1 + 1 + UInt64.ofNat index = s.attempts + 1 + UInt64.ofNat (index + 1)
        rw [UInt64.ofNat_add, UInt64.add_comm (UInt64.ofNat index), ← UInt64.add_assoc]
        rfl

/-- While the numbers last no handle is answered twice. -/
theorem logins_attempt_nodup (s : Session) (operations : List Operation)
    (hroom : (s.logins operations).length < 2 ^ 64) :
    ((s.logins operations).map Login.attempt).Nodup := by
  have hids : ((s.logins operations).map fun login => login.attempt.id).Nodup := by
    rw [logins_numbered]
    refine List.Nodup.map_on ?_ List.nodup_range
    intro first hfirst second hsecond heq
    rw [List.mem_range] at hfirst hsecond
    have hsame := congrArg UInt64.toNat ((UInt64.add_right_inj _).mp heq)
    rwa [UInt64.toNat_ofNat_of_lt' (Nat.lt_trans hfirst hroom),
      UInt64.toNat_ofNat_of_lt' (Nat.lt_trans hsecond hroom)] at hsame
  refine List.Nodup.of_map ConnectAttempt.id ?_
  rwa [List.map_map]

/-- The operations that take a handle up. -/
def takings (s : Session) (attempt : ConnectAttempt) : List Operation → List Operation
  | [] => []
  | operation :: rest =>
      (if operation.attempt? = some attempt ∧ (s.perform operation).reply.isTaken then [operation]
        else []) ++ (s.perform operation).session.takings attempt rest

/-- A handle is taken up once if it is waited for, and once for each time it is answered, at
most. -/
theorem takings_le (h : s.At phase) (attempt : ConnectAttempt) (operations : List Operation) :
    (s.takings attempt operations).length ≤
      (if phase.timer? = some attempt then 1 else 0)
        + ((s.logins operations).map Login.attempt).count attempt := by
  induction operations generalizing s phase with
  | nil => exact Nat.zero_le _
  | cons operation rest ih =>
      obtain ⟨next, hleads, hnext⟩ := perform_leads h operation
      have hrest := ih hnext
      rw [takings, logins_cons, List.map_append, List.count_append, List.length_append]
      by_cases htaken : operation.attempt? = some attempt ∧ (s.perform operation).reply.isTaken
      · obtain ⟨hbefore, hafter⟩ := hleads.taken htaken.1 htaken.2
        rw [if_pos htaken, if_pos hbefore]
        rw [hafter, if_neg (by simp)] at hrest
        simp only [List.length_singleton]
        omega
      · rw [if_neg htaken, List.length_nil]
        by_cases hwaits : next.timer? = some attempt
        · rw [if_pos hwaits] at hrest
          rcases hleads.timer_cases hwaits with hbefore | hbegun
          · rw [if_pos hbefore]
            omega
          · obtain ⟨login, hlogin, rfl⟩ := Option.map_eq_some_iff.mp hbegun
            rw [hlogin, Option.toList_some, List.map_singleton, List.count_singleton_self]
            omega
        · rw [if_neg hwaits] at hrest
          omega

/-- An operation that comes too late: it is answered so and changes nothing, and of a connection
that it hands over it asks only that it be closed. -/
structure Ignored (s : Session) (operation : Operation) : Prop where
  reply : (s.perform operation).reply = .taken false
  session : (s.perform operation).session = s
  notifications : Effect.notifications (s.perform operation).effects = []
  calls : Effect.calls (s.perform operation).effects =
    operation.handedOver?.toList.map fun connection => (connection, .close)

/-- What comes with a handle is taken up if the session waits for it. -/
theorem perform_attempt_reply (s : Session) {operation : Operation}
    (hattempt : operation.attempt? = some attempt) :
    (s.perform operation).reply = .taken (s.isCurrent attempt) := by
  cases operation with
  | transportOpened | timeoutElapsed | connectFailed =>
      obtain rfl := Option.some.inj hattempt
      simp only [perform, Step.map, transportOpened, timeoutElapsed, connectFailed]
      split <;> simp_all
  | _ => simp [Operation.attempt?] at hattempt

theorem ignored_of_not_isCurrent {operation : Operation}
    (hattempt : operation.attempt? = some attempt) (hlate : s.isCurrent attempt = false) :
    s.Ignored operation := by
  cases operation with
  | transportOpened | timeoutElapsed | connectFailed =>
      obtain rfl := Option.some.inj hattempt
      constructor <;>
        simp [perform, Step.map, transportOpened, timeoutElapsed, connectFailed, hlate,
          Effect.notifications, Operation.handedOver?]
  | _ => simp [Operation.attempt?] at hattempt

theorem run_isCurrent_iff (settings : ClientSettings) (before : List Operation)
    (attempt : ConnectAttempt) :
    ((new settings).run before).isCurrent attempt = true ↔
      ((new settings).logins before).getLast?.map Login.attempt = some attempt ∧
        ((new settings).run before).state = .connecting := by
  obtain ⟨phase, hat, hfollows⟩ := run_at settings before
  rw [hat.isCurrent_iff, hat.state]
  constructor
  · rintro ⟨login, rfl, rfl⟩
    have hlatest : ((new settings).logins before).getLast? = some login :=
      hfollows.login login rfl
    exact ⟨by rw [hlatest, Option.map_some], rfl⟩
  · rintro ⟨hlatest, hstate⟩
    cases phase with
    | dialing login =>
        have hlogin : ((new settings).logins before).getLast? = some login :=
          hfollows.login login rfl
        rw [hlogin, Option.map_some] at hlatest
        exact ⟨login, rfl, Option.some.inj hlatest⟩
    | _ => simp [Phase.state] at hstate

/-- A handle that was answered before is never taken up once the session has started over. -/
theorem takings_of_startsOver (h : s.At phase) {operation : Operation}
    (hover : operation.startsOver = true) (after : List Operation)
    (hnew : attempt ∉ (s.logins (operation :: after)).map Login.attempt) :
    (s.perform operation).session.takings attempt after = [] := by
  obtain ⟨next, hleads, hnext⟩ := perform_leads h operation
  rw [logins_cons, List.map_append, List.mem_append, not_or] at hnew
  have hwaits : next.timer? ≠ some attempt := by
    rw [hleads.timer_of_startsOver hover]
    intro hbegun
    obtain ⟨login, hlogin, rfl⟩ := Option.map_eq_some_iff.mp hbegun
    exact hnew.1 (by simp [hlogin])
  have hle := takings_le hnext attempt after
  rw [if_neg hwaits, List.count_eq_zero_of_not_mem hnew.2] at hle
  exact List.eq_nil_of_length_eq_zero (Nat.le_zero.mp hle)

/-- While there are numbers for the logins, a handle is taken up at most once.  What comes with it
is taken up exactly if it is the latest one and the session still connects, and is otherwise without
effect; and nothing that comes with it is taken up once the session has started over. -/
theorem attempts_taken_once (settings : ClientSettings) (operations : List Operation)
    (hroom : ((new settings).logins operations).length < 2 ^ 64) (attempt : ConnectAttempt) :
    ((new settings).takings attempt operations).length ≤ 1 ∧
    (∀ before operation after, operations = before ++ operation :: after →
      operation.attempt? = some attempt →
      ((((new settings).run before).perform operation).reply = .taken true ↔
        ((new settings).logins before).getLast?.map Login.attempt = some attempt ∧
          ((new settings).run before).state = .connecting) ∧
      ((((new settings).run before).perform operation).reply ≠ .taken true →
        ((new settings).run before).Ignored operation)) ∧
    ∀ before operation after, operations = before ++ operation :: after →
      attempt ∈ ((new settings).logins before).map Login.attempt → operation.startsOver = true →
      (((new settings).run before).perform operation).session.takings attempt after = [] := by
  have hnodup := logins_attempt_nodup (new settings) operations hroom
  refine ⟨?_, ?_, ?_⟩
  · have hle := takings_le (new_at settings) attempt operations
    have hone := List.nodup_iff_count_le_one.mp hnodup attempt
    rw [if_neg (by simp [Phase.timer?])] at hle
    omega
  · rintro before operation after - hattempt
    have hreply := perform_attempt_reply ((new settings).run before) hattempt
    refine ⟨?_, ?_⟩
    · rw [hreply, Reply.taken.injEq, run_isCurrent_iff]
    · intro hlate
      refine ignored_of_not_isCurrent hattempt ?_
      rw [hreply] at hlate
      simpa using hlate
  · rintro before operation after rfl hbefore hover
    obtain ⟨phase, hat, -⟩ := run_at settings before
    refine takings_of_startsOver hat hover after fun hlater => ?_
    rw [logins_append, List.map_append, List.nodup_append] at hnodup
    exact hnodup.2.2 attempt hbefore attempt hlater rfl

/-- A connection that opens after the time was up, and the failure of that attempt reported in the
next login. -/
def belatedReports : List Operation := [
  .startLogin ⟨"ws://gateway", 7, 8, "secret"⟩,
  .timeoutElapsed ⟨1, .ofSeconds 5⟩,
  .transportOpened ⟨1, .ofSeconds 5⟩ 1,
  .startLogin ⟨"ws://gateway", 7, 8, "secret"⟩,
  .connectFailed ⟨1, .ofSeconds 5⟩ "refused",
  .transportOpened ⟨2, .ofSeconds 5⟩ 2]

theorem attempts_of_belatedReports :
    ((new {}).logins belatedReports).length < 2 ^ 64 ∧
      ((new {}).takings ⟨1, .ofSeconds 5⟩ belatedReports).length ≤ 1 ∧
      (((new {}).run (belatedReports.take 1)).perform (.timeoutElapsed ⟨1, .ofSeconds 5⟩)).reply =
        .taken true ∧
      ((new {}).run (belatedReports.take 2)).Ignored (.transportOpened ⟨1, .ofSeconds 5⟩ 1) ∧
      ((new {}).run (belatedReports.take 4)).takings ⟨1, .ofSeconds 5⟩ (belatedReports.drop 4) =
        [] := by
  have hroom : ((new {}).logins belatedReports).length < 2 ^ 64 := by decide +kernel
  obtain ⟨honce, hreports, hover⟩ := attempts_taken_once {} belatedReports hroom ⟨1, .ofSeconds 5⟩
  have hfirst := hreports (belatedReports.take 1) _ (belatedReports.drop 2) rfl rfl
  have hsecond := hreports (belatedReports.take 2) _ (belatedReports.drop 3) rfl rfl
  refine ⟨hroom, honce, ?_, ?_, ?_⟩
  · exact hfirst.1.mpr (by decide +kernel)
  · exact hsecond.2 fun htaken => absurd (hsecond.1.mp htaken) (by decide +kernel)
  · exact hover (belatedReports.take 3) _ (belatedReports.drop 4) rfl (by decide +kernel)
      (by decide +kernel)

end Session

end GatewayLogin
