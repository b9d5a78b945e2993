/-
Counters: what a session has counted over a run, and how the counts add up.

What an operation counts is decided by the state that it finds and by its reply
(`SessionState.counts`).  Every attempt to connect ends in one of a few ways, and so does every
request that is sent; either end is counted or can be seen in the run.  Main statement:
`Session.counters_balance`.
-/
import GatewayLogin.Proofs.Session.Identity
import GatewayLogin.Proofs.Session.Notices
import Mathlib.Algebra.Group.Nat.Defs

namespace GatewayLogin

namespace Metrics

inductive Counter where
  | connectAttempts
  | connectFailures
  | connectTimeouts
  | framesSent
  | framesReceived
  | bytesSent
  | bytesReceived
  | loginsAccepted
  | loginsRejected
  | decodeFaults
deriving Repr, DecidableEq

def read (m : Metrics) : Counter → UInt64
  | .connectAttempts => m.connectAttempts
  | .connectFailures => m.connectFailures
  | .connectTimeouts => m.connectTimeouts
  | .framesSent => m.framesSent
  | .framesReceived => m.framesReceived
  | .bytesSent => m.bytesSent
  | .bytesReceived => m.bytesReceived
  | .loginsAccepted => m.loginsAccepted
  | .loginsRejected => m.loginsRejected
  | .decodeFaults => m.decodeFaults

/-- What an event adds to a counter. -/
def Event.adds (event : Event) (counter : Counter) : Nat :=
  match event with
  | .connectAttempt => if counter = .connectAttempts then 1 else 0
  | .connectFailed => if counter = .connectFailures then 1 else 0
  | .connectTimedOut => if counter = .connectTimeouts then 1 else 0
  | .frameSent bytes =>
      if counter = .framesSent then 1 else if counter = .bytesSent then bytes.toNat else 0
  | .frameReceived bytes =>
      if counter = .framesReceived then 1 else if counter = .bytesReceived then bytes.toNat else 0
  | .loginAccepted => if counter = .loginsAccepted then 1 else 0
  | .loginRejected => if counter = .loginsRejected then 1 else 0
  | .decodeFault => if counter = .decodeFaults then 1 else 0

/-- What events add to a counter together. -/
def added : List Event → Counter → Nat
  | [], _ => 0
  | event :: rest, counter => event.adds counter + added rest counter

@[simp] theorem added_nil (counter : Counter) : added [] counter = 0 := rfl

@[simp] theorem added_cons (event : Event) (rest : List Event) (counter : Counter) :
    added (event :: rest) counter = event.adds counter + added rest counter := rfl

@[simp] theorem added_append (before after : List Event) (counter : Counter) :
    added (before ++ after) counter = added before counter + added after counter := by
  induction before with
  | nil => simp
  | cons event rest ih => simp [ih, Nat.add_assoc]

@[simp] theorem added_ite {p : Prop} [Decidable p] (event : Event) (counter : Counter) :
    added (if p then [event] else []) counter = if p then event.adds counter else 0 := by
  split <;> simp

theorem read_count (m : Metrics) (event : Event) (counter : Counter) :
    (m.count event).read counter = m.read counter + UInt64.ofNat (event.adds counter) := by
  cases event <;> cases counter <;> simp [count, read, Event.adds, connectAttempt, connectFailed,
    connectTimedOut, frameSent, frameReceived, loginAccepted, loginRejected, decodeFault]

theorem read_foldl (m : Metrics) (events : List Event) (counter : Counter) :
    (events.foldl count m).read counter = m.read counter + UInt64.ofNat (added events counter) := by
  induction events generalizing m with
  | nil => simp
  | cons event rest ih =>
      rw [List.foldl_cons, ih, read_count, added_cons, UInt64.ofNat_add, UInt64.add_assoc]

/-- Whether a counter counts events, and not bytes. -/
def Counter.countsEvents : Counter → Bool
  | .bytesSent | .bytesReceived => false
  | _ => true

theorem Event.adds_le_one {counter : Counter} (h : counter.countsEvents = true) (event : Event) :
    event.adds counter ≤ 1 := by
  cases event <;> cases counter <;> simp_all [adds, Counter.countsEvents]

theorem added_le_length {counter : Counter} (h : counter.countsEvents = true)
    (events : List Event) : added events counter ≤ events.length := by
  induction events with
  | nil => simp
  | cons event rest ih =>
      have hone := event.adds_le_one h
      rw [added_cons, List.length_cons]
      omega

end Metrics

/-- What the packet that concludes a login counts. -/
def Packet.counts (packet : Packet) : List Metrics.Event :=
  (if packet.isParseError then [.decodeFault] else [])
    ++ [if packet.isSuccess then .loginAccepted else .loginRejected]

theorem Packet.added_counts (packet : Packet) (counter : Metrics.Counter) :
    Metrics.added packet.counts counter =
      match counter with
      | .loginsAccepted => packet.isSuccess.toNat
      | .loginsRejected => (!packet.isSuccess).toNat
      | .decodeFaults => packet.isParseError.toNat
      | _ => 0 := by
  rw [counts, Metrics.added_append]
  cases packet.isParseError <;> cases packet.isSuccess <;> cases counter <;> rfl

def SessionState.isConnecting : SessionState → Bool
  | .connecting => true
  | _ => false

def SessionState.isAwaiting : SessionState → Bool
  | .awaitingResponse => true
  | _ => false

theorem Packet.added_conclusion_bytes (packet : Option Packet) :
    Metrics.added (packet.elim [] counts) .bytesSent = 0 ∧
      Metrics.added (packet.elim [] counts) .bytesReceived = 0 := by
  cases packet <;> simp [added_counts]

theorem Packet.not_isSuccess_of_isParseError (packet : Packet) (h : packet.isParseError = true) :
    packet.isSuccess = false := by
  simp only [isParseError, Bool.and_eq_true, beq_iff_eq] at h
  simp [isSuccess, h.1, parseErrorCode]

/-- What an operation with a reply counts in a state. -/
def SessionState.counts (state : SessionState) : Operation → Reply → List Metrics.Event
  | .startLogin _, .started (.ok _) => [.connectAttempt]
  | .timeoutElapsed _, .taken true => [.connectTimedOut]
  | .connectFailed .., .taken true => [.connectFailed]
  | .transportErrored _, _ => if state.isConnecting then [.connectFailed] else []
  | .sendSignIn .., .sent (.ok frame) => [.frameSent frame.length.toUInt64]
  | .frameReceived frame, .answered packet =>
      .frameReceived frame.length.toUInt64 :: packet.elim [] Packet.counts
  | _, _ => []

theorem SessionState.toNat_isConnecting (state : SessionState) :
    state.isConnecting.toNat = if state = .connecting then 1 else 0 := by
  cases state <;> simp [isConnecting]

theorem SessionState.toNat_isAwaiting (state : SessionState) :
    state.isAwaiting.toNat = if state = .awaitingResponse then 1 else 0 := by
  cases state <;> simp [isAwaiting]

open Metrics (added)

/-- An unreadable frame is counted only with a rejected login, and a login is concluded only by a
frame that comes in. -/
theorem SessionState.conclusions_le (state : SessionState) (operation : Operation) (reply : Reply) :
    added (state.counts operation reply) .decodeFaults ≤
        added (state.counts operation reply) .loginsRejected ∧
      added (state.counts operation reply) .loginsAccepted
          + added (state.counts operation reply) .loginsRejected ≤
        added (state.counts operation reply) .framesReceived := by
  unfold counts
  split
  case h_6 frame packet =>
    cases packet with
    | none => simp [Metrics.Event.adds]
    | some packet =>
        have hfault := packet.not_isSuccess_of_isParseError
        cases hsuccess : packet.isSuccess <;> cases hparse : packet.isParseError <;>
          simp_all [Metrics.Event.adds, Packet.added_counts]
  all_goals simp [Metrics.Event.adds]

/-- Whether an operation gives up an attempt to connect. -/
def SessionState.abandons (state : SessionState) (operation : Operation) : Bool :=
  state.isConnecting && operation.startsOver

/-- Whether an operation ends the wait for a response without one. -/
def SessionState.leavesUnanswered (state : SessionState) : Operation → Bool
  | .transportErrored _ => state.isAwaiting
  | operation => state.isAwaiting && operation.startsOver

/-- The length of the frame that an operation sends. -/
def Operation.bytesSent : Operation → Reply → Nat
  | .sendSignIn .., .sent (.ok frame) => frame.length
  | _, _ => 0

/-- The length of the frame that an operation hands in. -/
def Operation.bytesReceived : Operation → Nat
  | .frameReceived frame => frame.length
  | _ => 0

namespace Phase

variable {phase next : Phase} {operation : Operation} {reply : Reply}

theorem isConnecting_of_idle (hidle : phase.state.isActive = false) :
    phase.state.isConnecting = false := by
  cases phase <;> simp_all [state, SessionState.isActive, SessionState.isConnecting]

theorem isAwaiting_of_idle (hidle : phase.state.isActive = false) :
    phase.state.isAwaiting = false := by
  cases phase <;> simp_all [state, SessionState.isActive, SessionState.isAwaiting]

/-- An attempt is counted as it begins, and as it ends unless it is abandoned. -/
theorem Leads.attempts_balance (h : phase.Leads operation reply next) :
    added (phase.state.counts operation reply) .connectAttempts + phase.state.isConnecting.toNat =
      (operation.opens reply).toNat
        + added (phase.state.counts operation reply) .connectFailures
        + added (phase.state.counts operation reply) .connectTimeouts
        + (phase.state.abandons operation).toNat + next.state.isConnecting.toNat := by
  cases h with
  | refused hfault =>
      simp [SessionState.counts, SessionState.abandons, Operation.opens, Operation.startsOver,
        hfault, Except.isOk, Except.toBool]
  | begun hvalid =>
      simp [SessionState.counts, SessionState.abandons, Operation.opens, Operation.startsOver,
        hvalid, Except.isOk, Except.toBool, Metrics.Event.adds]
      exact Nat.add_comm 1 _
  | erroredLate hidle =>
      simp [SessionState.counts, SessionState.abandons, Operation.opens, Operation.startsOver,
        isConnecting_of_idle hidle]
  | closed | disconnected =>
      simp [SessionState.counts, SessionState.abandons, Operation.opens, Operation.startsOver]
      rfl
  | _ =>
      simp [SessionState.counts, SessionState.abandons, Operation.opens, Operation.startsOver,
        Metrics.Event.adds, Packet.added_counts, state, SessionState.isConnecting]

/-- A request is counted as it is sent, and as it is answered unless it is left unanswered. -/
theorem Leads.exchanges_balance (h : phase.Leads operation reply next) :
    added (phase.state.counts operation reply) .framesSent + phase.state.isAwaiting.toNat =
      added (phase.state.counts operation reply) .loginsAccepted
        + added (phase.state.counts operation reply) .loginsRejected
        + (phase.state.leavesUnanswered operation).toNat + next.state.isAwaiting.toNat := by
  cases h with
  | refused hfault =>
      simp [SessionState.counts, SessionState.leavesUnanswered, Operation.startsOver, hfault,
        Except.isOk, Except.toBool]
  | begun hvalid =>
      simp [SessionState.counts, SessionState.leavesUnanswered, Operation.startsOver, hvalid,
        Except.isOk, Except.toBool, Metrics.Event.adds]
      rfl
  | erroredLate hidle =>
      simp [SessionState.counts, SessionState.leavesUnanswered, Metrics.Event.adds,
        isAwaiting_of_idle hidle]
  | closed | disconnected =>
      simp [SessionState.counts, SessionState.leavesUnanswered, Operation.startsOver]
      rfl
  | accepted hsuccess | rejected hsuccess =>
      simp [SessionState.counts, SessionState.leavesUnanswered, Operation.startsOver,
        Metrics.Event.adds, Packet.added_counts, hsuccess, state, SessionState.isAwaiting]
  | _ =>
      simp [SessionState.counts, SessionState.leavesUnanswered, Operation.startsOver,
        Metrics.Event.adds, state, SessionState.isConnecting, SessionState.isAwaiting]

/-- Over an open connection at most one request is sent. -/
theorem Leads.sent_le (h : phase.Leads operation reply next) :
    added (phase.state.counts operation reply) .framesSent + next.isOpened.toNat ≤
      (operation.opens reply).toNat + phase.isOpened.toNat := by
  cases h <;>
    simp [SessionState.counts, Operation.opens, Metrics.Event.adds, Packet.added_counts, isOpened]

end Phase

namespace Session

theorem perform_metrics (s : Session) (operation : Operation) :
    (s.perform operation).session.metrics =
      (s.state.counts operation (s.perform operation).reply).foldl Metrics.count s.metrics := by
  cases operation with
  | startLogin credentials =>
      simp only [perform, Step.map, startLogin]
      split <;> rfl
  | transportOpened | timeoutElapsed | connectFailed =>
      simp only [perform, Step.map, transportOpened, timeoutElapsed, connectFailed]
      split <;> rfl
  | transportErrored error =>
      simp only [perform, Step.map, transportErrored, SessionState.counts]
      split <;> simp_all [SessionState.isConnecting, Metrics.count, failing, cleared]
  | sendSignIn clock write =>
      simp only [perform, Step.map, sendSignIn]
      repeat' split
      all_goals rfl
  | frameReceived frame =>
      simp only [perform, Step.map, frameReceived, SessionState.counts]
      split
      · rfl
      · split <;> split <;> simp_all [Packet.counts, Metrics.count]
  | transportClosed | disconnect => rfl

/-- All that operations on a session count, in order. -/
def counted (s : Session) : List Operation → List Metrics.Event
  | [] => []
  | operation :: rest =>
      s.state.counts operation (s.perform operation).reply
        ++ (s.perform operation).session.counted rest

/-- How many attempts to connect are abandoned. -/
def abandoned (s : Session) (operations : List Operation) : Nat :=
  s.total (fun s operation _ => (s.state.abandons operation).toNat) operations

/-- How many requests that were sent are left unanswered. -/
def unanswered (s : Session) (operations : List Operation) : Nat :=
  s.total (fun s operation _ => (s.state.leavesUnanswered operation).toNat) operations

/-- The length of all frames that are sent. -/
def bytesSent (s : Session) (operations : List Operation) : Nat :=
  s.total (fun _ operation reply => operation.bytesSent reply) operations

/-- The length of all frames that are handed in. -/
def bytesReceived (s : Session) (operations : List Operation) : Nat :=
  s.total (fun _ operation _ => operation.bytesReceived) operations

variable {s : Session} {phase : Phase}

theorem run_metrics (s : Session) (operations : List Operation) :
    (s.run operations).metrics = (s.counted operations).foldl Metrics.count s.metrics := by
  induction operations generalizing s with
  | nil => rfl
  | cons operation rest ih =>
      rw [counted, List.foldl_append, ← perform_metrics]
      exact ih _

theorem added_counted (s : Session) (operations : List Operation) (counter : Metrics.Counter) :
    Metrics.added (s.counted operations) counter =
      s.total (fun s operation reply => Metrics.added (s.state.counts operation reply) counter)
        operations := by
  induction operations generalizing s with
  | nil => rfl
  | cons operation rest ih => rw [counted, Metrics.added_append, ih, total]

theorem attempts_balance (h : s.At phase) (operations : List Operation) :
    Metrics.added (s.counted operations) .connectAttempts + s.state.isConnecting.toNat =
      s.opens operations + Metrics.added (s.counted operations) .connectFailures
        + Metrics.added (s.counted operations) .connectTimeouts + s.abandoned operations
        + (s.run operations).state.isConnecting.toNat := by
  induction operations generalizing s phase with
  | nil => simp [counted, opens, abandoned, total, run]
  | cons operation rest ih =>
      -- The state after the step closes its balance and opens that of the rest.
      obtain ⟨next, hleads, hnext⟩ := perform_leads h operation
      have hstep := hleads.attempts_balance
      have hrest := ih hnext
      rw [← h.state, ← hnext.state] at hstep
      simp only [counted, Metrics.added_append, opens, abandoned, total] at hrest ⊢
      change _ = _ + ((s.perform operation).session.run rest).state.isConnecting.toNat
      omega

theorem exchanges_balance (h : s.At phase) (operations : List Operation) :
    Metrics.added (s.counted operations) .framesSent + s.state.isAwaiting.toNat =
      Metrics.added (s.counted operations) .loginsAccepted
        + Metrics.added (s.counted operations) .loginsRejected + s.unanswered operations
        + (s.run operations).state.isAwaiting.toNat := by
  induction operations generalizing s phase with
  | nil => simp [counted, unanswered, total, run]
  | cons operation rest ih =>
      obtain ⟨next, hleads, hnext⟩ := perform_leads h operation
      have hstep := hleads.exchanges_balance
      have hrest := ih hnext
      rw [← h.state, ← hnext.state] at hstep
      simp only [counted, Metrics.added_append, unanswered, total] at hrest ⊢
      change _ = _ + ((s.perform operation).session.run rest).state.isAwaiting.toNat
      omega

theorem sent_le (h : s.At phase) (operations : List Operation) :
    Metrics.added (s.counted operations) .framesSent ≤
      s.opens operations + phase.isOpened.toNat := by
  induction operations generalizing s phase with
  | nil => simp [counted]
  | cons operation rest ih =>
      obtain ⟨next, hleads, hnext⟩ := perform_leads h operation
      have hstep := hleads.sent_le
      have hrest := ih hnext
      rw [← h.state] at hstep
      simp only [counted, Metrics.added_append, opens, total] at hrest ⊢
      omega

theorem total_mono {small large : Session → Operation → Reply → Nat}
    (h : ∀ s operation reply, small s operation reply ≤ large s operation reply) (s : Session)
    (operations : List Operation) : s.total small operations ≤ s.total large operations := by
  induction operations generalizing s with
  | nil => simp [total]
  | cons operation rest ih => exact Nat.add_le_add (h ..) (ih _)

theorem total_add (first second : Session → Operation → Reply → Nat) (s : Session)
    (operations : List Operation) :
    s.total (fun s operation reply => first s operation reply + second s operation reply)
        operations = s.total first operations + s.total second operations := by
  induction operations generalizing s with
  | nil => rfl
  | cons operation rest ih =>
      rw [total, total, total, ih]
      omega

theorem total_mod {first second : Session → Operation → Reply → Nat} {modulus : Nat}
    (h : ∀ (s : Session) (operation : Operation),
      first s operation (s.perform operation).reply % modulus =
        second s operation (s.perform operation).reply % modulus) (s : Session)
    (operations : List Operation) :
    s.total first operations % modulus = s.total second operations % modulus := by
  induction operations generalizing s with
  | nil => rfl
  | cons operation rest ih => rw [total, total, Nat.add_mod, h, ih, ← Nat.add_mod]

theorem counted_conclusions_le (s : Session) (operations : List Operation) :
    added (s.counted operations) .decodeFaults ≤ added (s.counted operations) .loginsRejected ∧
      added (s.counted operations) .loginsAccepted + added (s.counted operations) .loginsRejected ≤
        added (s.counted operations) .framesReceived := by
  simp only [added_counted, ← total_add]
  exact ⟨total_mono (fun s operation reply => (s.state.conclusions_le operation reply).1) s _,
    total_mono (fun s operation reply => (s.state.conclusions_le operation reply).2) s _⟩

/-- A counter of a session that has not begun holds what was added to it, as a word. -/
theorem toNat_read_run (settings : ClientSettings) (operations : List Operation)
    (counter : Metrics.Counter) :
    (((new settings).run operations).metrics.read counter).toNat =
      added ((new settings).counted operations) counter % 2 ^ 64 := by
  have hzero : (new settings).metrics.read counter = 0 := by cases counter <;> rfl
  rw [run_metrics, Metrics.read_foldl, hzero, UInt64.zero_add, UInt64.toNat_ofNat']

/-- A counter holds the sum of whatever is, as a word, what each operation adds to it. -/
theorem toNat_read_run_eq_total (settings : ClientSettings) (operations : List Operation)
    (counter : Metrics.Counter) {weight : Session → Operation → Reply → Nat}
    (h : ∀ (s : Session) (operation : Operation),
      added (s.state.counts operation (s.perform operation).reply) counter % 2 ^ 64 =
        weight s operation (s.perform operation).reply % 2 ^ 64) :
    (((new settings).run operations).metrics.read counter).toNat =
      (new settings).total weight operations % 2 ^ 64 := by
  rw [toNat_read_run, added_counted]
  exact total_mod h _ _

theorem toNat_bytesSent (settings : ClientSettings) (operations : List Operation) :
    ((new settings).run operations).metrics.bytesSent.toNat =
      (new settings).bytesSent operations % 2 ^ 64 := by
  refine toNat_read_run_eq_total settings operations .bytesSent fun s operation => ?_
  generalize (s.perform operation).reply = reply
  unfold SessionState.counts Operation.bytesSent
  split <;> split <;> simp_all [Metrics.Event.adds, Packet.added_conclusion_bytes]

theorem toNat_bytesReceived (settings : ClientSettings) (operations : List Operation) :
    ((new settings).run operations).metrics.bytesReceived.toNat =
      (new settings).bytesReceived operations % 2 ^ 64 := by
  refine toNat_read_run_eq_total settings operations .bytesReceived fun s operation => ?_
  cases operation with
  | frameReceived frame =>
      simp [perform, Step.map, SessionState.counts, Metrics.Event.adds, Operation.bytesReceived,
        Packet.added_conclusion_bytes]
  | _ =>
      unfold SessionState.counts
      split <;> simp_all [Metrics.Event.adds, Operation.bytesReceived]

/-- As long as fewer than 2^64 events are counted, every attempt to connect is opened, has failed,
has timed out, is abandoned or goes on, and every request that is sent is accepted, rejected, left
unanswered or still waits, each exactly once.  No more requests are sent than connections open, only
rejected logins count as unreadable, and logins are concluded only by frames that come in.  The
counters of bytes hold the lengths of all frames sent and of all frames handed in; those are words
too, so a sum from 2^64 up wraps around. -/
theorem counters_balance (settings : ClientSettings) (operations : List Operation)
    (hroom : ((new settings).counted operations).length < 2 ^ 64) :
    let s := new settings
    let state := (s.run operations).state
    let m := (s.run operations).metrics
    m = (s.counted operations).foldl Metrics.count {} ∧
      m.connectAttempts.toNat =
        s.opens operations + m.connectFailures.toNat + m.connectTimeouts.toNat
          + s.abandoned operations + (if state = .connecting then 1 else 0) ∧
      m.framesSent.toNat =
        m.loginsAccepted.toNat + m.loginsRejected.toNat + s.unanswered operations
          + (if state = .awaitingResponse then 1 else 0) ∧
      m.framesSent.toNat ≤ s.opens operations ∧
      m.decodeFaults.toNat ≤ m.loginsRejected.toNat ∧
      m.loginsAccepted.toNat + m.loginsRejected.toNat ≤ m.framesReceived.toNat ∧
      m.bytesSent.toNat = s.bytesSent operations % 2 ^ 64 ∧
      m.bytesReceived.toNat = s.bytesReceived operations % 2 ^ 64 := by
  intro s state m
  have hexact (counter : Metrics.Counter) (h : counter.countsEvents = true) :
      added (s.counted operations) counter = (m.read counter).toNat := by
    rw [toNat_read_run]
    have hle := Metrics.added_le_length h (s.counted operations)
    exact (Nat.mod_eq_of_lt (Nat.lt_of_le_of_lt hle hroom)).symm
  have hattempts := attempts_balance (new_at settings) operations
  have hexchanges := exchanges_balance (new_at settings) operations
  have hsent := sent_le (new_at settings) operations
  obtain ⟨hfaults, hanswered⟩ := counted_conclusions_le s operations
  have hidle : s.state.isConnecting.toNat = 0 ∧ s.state.isAwaiting.toNat = 0 := ⟨rfl, rfl⟩
  rw [hidle.1, Nat.add_zero, SessionState.toNat_isConnecting, hexact .connectAttempts rfl,
    hexact .connectFailures rfl, hexact .connectTimeouts rfl] at hattempts
  rw [hidle.2, Nat.add_zero, SessionState.toNat_isAwaiting, hexact .framesSent rfl,
    hexact .loginsAccepted rfl, hexact .loginsRejected rfl] at hexchanges
  rw [hexact .framesSent rfl] at hsent
  rw [hexact .decodeFaults rfl, hexact .loginsRejected rfl] at hfaults
  rw [hexact .loginsAccepted rfl, hexact .loginsRejected rfl,
    hexact .framesReceived rfl] at hanswered
  exact ⟨run_metrics _ _, hattempts, hexchanges, hsent, hfaults, hanswered,
    toNat_bytesSent settings operations, toNat_bytesReceived settings operations⟩

/-- A login that is superseded before its connection fails, one whose connection breaks off while it
waits for a response, and one whose response cannot be read. -/
def troubledLogins : List Operation := [
  .startLogin ⟨"ws://gateway", 7, 8, "secret"⟩,
  .startLogin ⟨"ws://gateway", 7, 8, "secret"⟩,
  .connectFailed ⟨2, .ofSeconds 5⟩ "refused",
  .startLogin ⟨"ws://gateway", 7, 8, "secret"⟩,
  .transportOpened ⟨3, .ofSeconds 5⟩ 1,
  .sendSignIn 1700000000000 fun _ => .ok (),
  .transportErrored "reset",
  .startLogin ⟨"ws://gateway", 7, 8, "secret"⟩,
  .transportOpened ⟨4, .ofSeconds 5⟩ 2,
  .sendSignIn 1700000000000 fun _ => .ok (),
  .frameReceived [0xFF]]

theorem counters_of_troubledLogins :
    ((new {}).counted troubledLogins).length < 2 ^ 64 ∧
      ((new {}).run troubledLogins).metrics.connectAttempts.toNat =
        2 + ((new {}).run troubledLogins).metrics.connectFailures.toNat
          + ((new {}).run troubledLogins).metrics.connectTimeouts.toNat + 1 ∧
      ((new {}).run troubledLogins).metrics.framesSent.toNat =
        ((new {}).run troubledLogins).metrics.loginsAccepted.toNat
          + ((new {}).run troubledLogins).metrics.loginsRejected.toNat + 1 := by
  have hroom : ((new {}).counted troubledLogins).length < 2 ^ 64 := by decide +kernel
  have hopens : (new {}).opens troubledLogins = 2 := by decide +kernel
  have habandoned : (new {}).abandoned troubledLogins = 1 := by decide +kernel
  have hunanswered : (new {}).unanswered troubledLogins = 1 := by decide +kernel
  have hstate : ((new {}).run troubledLogins).state = .failed (.rejected (-1)) := by decide +kernel
  obtain ⟨-, hattempts, hexchanges, -⟩ := counters_balance {} troubledLogins hroom
  rw [hopens, habandoned, hstate, if_neg (by decide), Nat.add_zero] at hattempts
  rw [hunanswered, hstate, if_neg (by decide), Nat.add_zero] at hexchanges
  exact ⟨hroom, hattempts, hexchanges⟩

end Session

end GatewayLogin
