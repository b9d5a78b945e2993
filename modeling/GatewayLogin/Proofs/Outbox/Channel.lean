/-
Outboxes over channels.

The queue of an outbox stands for a bounded channel from a connection to its writer.  Here the
channel is any that keeps the promises of `Channel.IsFifo`: first in, first out, up to its capacity,
and without waiting.  Over such a channel a connection answers what the outbox answers, whatever is
done at either end, and the channel holds what is queued.  Main statement:
`Queued.delivers_what_was_accepted`.
-/
import GatewayLogin.Proofs.Outbox.Delivery

namespace GatewayLogin

namespace Channel

/-- What becomes of a command that is sent without waiting. -/
inductive Sent where
  | queued
  | full
  /-- There is no receiver. -/
  | closed

/-- What there is to receive without waiting. -/
inductive Found where
  | item (command : Outbound)
  | empty
  /-- There is nothing, and no sender. -/
  | disconnected

/-- What a channel holds, and which of its halves are there. -/
structure Contents where
  capacity : Nat
  items : List Outbound
  sender : Bool
  receiver : Bool

end Channel

/-- A channel as it is used by its two halves. -/
structure Channel (State : Type) where
  /-- The most room that a channel can be made with. -/
  limit : Nat
  make : Nat → State
  trySend : State → Outbound → Channel.Sent × State
  isClosed : State → Bool
  dropSender : State → State
  tryReceive : State → Channel.Found × State
  dropReceiver : State → State

/-- A connection that sends into a channel, and the writer at the other end. -/
structure Queued (State : Type) where
  /-- Whether the connection still has the sending half. -/
  sending : Bool
  /-- Whether the writer still has the receiving half. -/
  receiving : Bool
  state : State

namespace Channel

variable {State : Type}

/-- A bounded channel, first in, first out.  It is known what each state holds, and each half does
with it what it promises for as long as it is there. -/
structure IsFifo (channel : Channel State) (holds : State → Contents) : Prop where
  make : ∀ capacity, 0 < capacity → capacity ≤ channel.limit →
    holds (channel.make capacity) = ⟨capacity, [], true, true⟩
  send_queued : ∀ s command, (holds s).sender = true → (holds s).receiver = true →
    (holds s).items.length < (holds s).capacity →
    (channel.trySend s command).1 = .queued ∧
      holds (channel.trySend s command).2 =
        { holds s with items := (holds s).items ++ [command] }
  send_full : ∀ s command, (holds s).sender = true → (holds s).receiver = true →
    (holds s).capacity ≤ (holds s).items.length →
    (channel.trySend s command).1 = .full ∧ holds (channel.trySend s command).2 = holds s
  send_closed : ∀ s command, (holds s).sender = true → (holds s).receiver = false →
    (channel.trySend s command).1 = .closed ∧ holds (channel.trySend s command).2 = holds s
  isClosed : ∀ s, (holds s).sender = true → channel.isClosed s = !(holds s).receiver
  dropSender : ∀ s, (holds s).sender = true →
    holds (channel.dropSender s) = { holds s with sender := false }
  receive_item : ∀ s command rest, (holds s).receiver = true → (holds s).items = command :: rest →
    (channel.tryReceive s).1 = .item command ∧
      holds (channel.tryReceive s).2 = { holds s with items := rest }
  receive_empty : ∀ s, (holds s).receiver = true → (holds s).items = [] →
    (holds s).sender = true →
    (channel.tryReceive s).1 = .empty ∧ holds (channel.tryReceive s).2 = holds s
  receive_disconnected : ∀ s, (holds s).receiver = true → (holds s).items = [] →
    (holds s).sender = false →
    (channel.tryReceive s).1 = .disconnected ∧ holds (channel.tryReceive s).2 = holds s
  dropReceiver : ∀ s, (holds s).receiver = true →
    holds (channel.dropReceiver s) = { holds s with items := [], receiver := false }

/-- A channel that is a list of what it holds. -/
def listed : Channel Contents where
  limit := UInt64.size / 8 - 1
  make capacity := ⟨capacity, [], true, true⟩
  trySend contents command :=
    if !contents.receiver then (.closed, contents)
    else if contents.capacity ≤ contents.items.length then (.full, contents)
    else (.queued, { contents with items := contents.items ++ [command] })
  isClosed contents := !contents.receiver
  dropSender contents := { contents with sender := false }
  tryReceive contents :=
    match contents.items with
    | command :: rest => (.item command, { contents with items := rest })
    | [] => (if contents.sender then .empty else .disconnected, contents)
  dropReceiver contents := { contents with items := [], receiver := false }

theorem listed_isFifo : listed.IsFifo id where
  make _ _ _ := rfl
  send_queued s command _ hreceiver hroom := by
    have hnot : ¬ s.capacity ≤ s.items.length := Nat.not_le.mpr hroom
    have hthere : s.receiver = true := hreceiver
    simp [listed, hthere, hnot]
  send_full s command _ hreceiver hfull := by
    have hthere : s.receiver = true := hreceiver
    have hnot : s.capacity ≤ s.items.length := hfull
    simp [listed, hthere, hnot]
  send_closed s command _ hreceiver := by
    have hgone : s.receiver = false := hreceiver
    simp [listed, hgone]
  isClosed _ _ := rfl
  dropSender _ _ := rfl
  receive_item s command rest _ hitems := by
    have hqueue : s.items = command :: rest := hitems
    simp [listed, hqueue]
  receive_empty s _ hitems hsender := by
    have hqueue : s.items = [] := hitems
    have hthere : s.sender = true := hsender
    simp [listed, hqueue, hthere]
  receive_disconnected s _ hitems hsender := by
    have hqueue : s.items = [] := hitems
    have hgone : s.sender = false := hsender
    simp [listed, hqueue, hgone]
  dropReceiver _ _ := rfl

end Channel

namespace Queued

variable {State : Type} (channel : Channel State)

/-- A connection over a fresh channel with room for at least one command. -/
def connect (capacity : Nat) : Queued State :=
  ⟨true, true, channel.make (max capacity 1)⟩

def send (q : Queued State) (frame : Frame) : Except Fault Unit × Queued State :=
  if q.sending then
    let tried := channel.trySend q.state (.frame frame)
    let next := { q with state := tried.2 }
    match tried.1 with
    | .queued => (.ok (), next)
    | .full => (.error (.transport Outbox.queueFull), next)
    | .closed => (.error (.transport Outbox.writerGone), next)
  else (.error .notOpen, q)

/-- Close a connection.  Its sending half is let go, after one more command if that can be sent. -/
def close (q : Queued State) : Queued State :=
  if q.sending then
    { q with sending := false, state := channel.dropSender (channel.trySend q.state .close).2 }
  else q

def isOpen (q : Queued State) : Bool := q.sending && !channel.isClosed q.state

def receive (q : Queued State) : Outbox.Received × Queued State :=
  if q.receiving then
    let tried := channel.tryReceive q.state
    let next := { q with state := tried.2 }
    match tried.1 with
    | .item command => (.command command, next)
    | .empty => (.empty, next)
    | .disconnected => (.disconnected, next)
  else (.noWriter, q)

def dropWriter (q : Queued State) : Queued State :=
  if q.receiving then { q with receiving := false, state := channel.dropReceiver q.state } else q

/-- Letting a connection go closes it. -/
def perform (q : Queued State) : Outbox.Operation → Outbox.Answer × Queued State
  | .send frame => (.sent (q.send channel frame).1, (q.send channel frame).2)
  | .close => (.done, q.close channel)
  | .drop => (.done, q.close channel)
  | .receive => (.received (q.receive channel).1, (q.receive channel).2)
  | .dropWriter => (.done, q.dropWriter channel)

def run (q : Queued State) : List Outbox.Operation → List (Outbox.Answer × Queued State)
  | [] => []
  | operation :: rest => q.perform channel operation :: run (q.perform channel operation).2 rest

/-- The connection has the halves that the outbox has, and the channel holds what is queued. -/
structure Mirrors (holds : State → Channel.Contents) (q : Queued State) (box : Outbox) : Prop where
  sending : q.sending = decide (box.sender = .opened)
  receiving : q.receiving = box.writer
  contents : holds q.state = ⟨box.capacity, box.queue, decide (box.sender = .opened), box.writer⟩

variable {channel} {holds : State → Channel.Contents} {q : Queued State} {box : Outbox}

theorem connect_mirrors (hfifo : channel.IsFifo holds) {capacity : Nat}
    (hadmitted : max capacity 1 ≤ channel.limit) :
    (connect channel capacity).Mirrors holds (Outbox.new capacity) := by
  have hroom : 0 < max capacity 1 := by omega
  exact ⟨rfl, rfl, hfifo.make _ hroom hadmitted⟩

theorem Mirrors.sending_iff (h : q.Mirrors holds box) :
    q.sending = true ↔ box.sender = .opened := by
  rw [h.sending, decide_eq_true_iff]

/-- Trying one more command comes to what the outbox would say of a frame. -/
theorem Mirrors.trySend (h : q.Mirrors holds box) (hfifo : channel.IsFifo holds)
    (hopen : box.sender = .opened) (command : Outbound) :
    let tried := channel.trySend q.state command
    (box.verdict = .ok () ∧ tried.1 = .queued ∧
        holds tried.2 = ⟨box.capacity, box.queue ++ [command], true, box.writer⟩) ∨
      (box.verdict = .error (.transport Outbox.queueFull) ∧ tried.1 = .full ∧
        holds tried.2 = ⟨box.capacity, box.queue, true, box.writer⟩) ∨
      (box.verdict = .error (.transport Outbox.writerGone) ∧ tried.1 = .closed ∧
        holds tried.2 = ⟨box.capacity, box.queue, true, box.writer⟩) := by
  intro tried
  have hcontents : holds q.state = ⟨box.capacity, box.queue, true, box.writer⟩ := by
    rw [h.contents, hopen]
    rfl
  have hsender : (holds q.state).sender = true := by rw [hcontents]
  cases hwriter : box.writer with
  | false =>
      have hgone : (holds q.state).receiver = false := by rw [hcontents, hwriter]
      obtain ⟨hanswer, hleft⟩ := hfifo.send_closed q.state command hsender hgone
      refine .inr (.inr ⟨?_, hanswer, ?_⟩)
      · simp [Outbox.verdict, hopen, hwriter]
      · rw [hleft, hcontents, hwriter]
  | true =>
      have hthere : (holds q.state).receiver = true := by rw [hcontents, hwriter]
      by_cases hfull : box.capacity ≤ box.queue.length
      · have hroom : (holds q.state).capacity ≤ (holds q.state).items.length := by
          rw [hcontents]
          exact hfull
        obtain ⟨hanswer, hleft⟩ := hfifo.send_full q.state command hsender hthere hroom
        refine .inr (.inl ⟨?_, hanswer, ?_⟩)
        · simp [Outbox.verdict, hopen, hwriter, hfull]
        · rw [hleft, hcontents, hwriter]
      · have hroom : (holds q.state).items.length < (holds q.state).capacity := by
          rw [hcontents]
          exact Nat.lt_of_not_le hfull
        obtain ⟨hanswer, hleft⟩ := hfifo.send_queued q.state command hsender hthere hroom
        refine .inl ⟨?_, hanswer, ?_⟩
        · simp [Outbox.verdict, hopen, hwriter, hfull]
        · rw [hleft, hcontents, hwriter]

theorem Mirrors.send (h : q.Mirrors holds box) (hfifo : channel.IsFifo holds) (frame : Frame) :
    (q.send channel frame).1 = (box.send frame).1 ∧
      (q.send channel frame).2.Mirrors holds (box.send frame).2 := by
  by_cases hopen : box.sender = .opened
  · have hsending := h.sending_iff.mpr hopen
    have hheld : decide (box.sender = .opened) = true := decide_eq_true hopen
    rcases h.trySend hfifo hopen (.frame frame) with
      ⟨hverdict, hanswer, hleft⟩ | ⟨hverdict, hanswer, hleft⟩ | ⟨hverdict, hanswer, hleft⟩
    all_goals
      simp only [Queued.send, Outbox.send, if_pos hsending, hverdict, hanswer, true_and]
      exact ⟨h.sending, h.receiving, by rw [hleft, hheld]⟩
  · have hsending := mt h.sending_iff.mp hopen
    simp only [Queued.send, Outbox.send_of_not_opened hopen, if_neg hsending, true_and]
    exact h

theorem Mirrors.close_of_not_opened (h : q.Mirrors holds box) (hopen : box.sender ≠ .opened) :
    q.close channel = q := if_neg (mt h.sending_iff.mp hopen)

theorem Mirrors.close (h : q.Mirrors holds box) (hfifo : channel.IsFifo holds)
    {sender : Outbox.Sender} (hshut : sender ≠ .opened) :
    (q.close channel).Mirrors holds (box.shut sender) := by
  by_cases hopen : box.sender = .opened
  · have hsending := h.sending_iff.mpr hopen
    rcases h.trySend hfifo hopen .close with
      ⟨hverdict, -, hleft⟩ | ⟨hverdict, -, hleft⟩ | ⟨hverdict, -, hleft⟩
    all_goals
      have hdropped := hfifo.dropSender (channel.trySend q.state .close).2 (by rw [hleft])
      rw [hleft] at hdropped
      simp only [Queued.close, Outbox.shut, hsending, hverdict, if_true]
      exact ⟨(decide_eq_false hshut).symm, h.receiving, by rw [hdropped, decide_eq_false hshut]⟩
  · rw [h.close_of_not_opened hopen, Outbox.shut_of_not_opened hopen]
    have hnot : decide (box.sender = .opened) = decide (sender = .opened) := by
      rw [decide_eq_false hopen, decide_eq_false hshut]
    exact ⟨h.sending.trans hnot, h.receiving, by rw [h.contents, hnot]⟩

theorem Mirrors.receive (h : q.Mirrors holds box) (hfifo : channel.IsFifo holds) :
    (q.receive channel).1 = box.receive.1 ∧
      (q.receive channel).2.Mirrors holds box.receive.2 := by
  have hcontents := h.contents
  cases hwriter : box.writer with
  | false =>
      have hreceiving : ¬ q.receiving = true := by simp [h.receiving, hwriter]
      simp only [Queued.receive, Outbox.receive_of_no_writer hwriter, if_neg hreceiving, true_and]
      exact h
  | true =>
      have hreceiving : q.receiving = true := h.receiving.trans hwriter
      have hthere : (holds q.state).receiver = true := by rw [hcontents, hwriter]
      simp only [Queued.receive, if_pos hreceiving]
      cases hqueue : box.queue with
      | cons command rest =>
          obtain ⟨hanswer, hleft⟩ :=
            hfifo.receive_item q.state command rest hthere (by rw [hcontents, hqueue])
          rw [Outbox.receive_of_cons hwriter hqueue]
          simp only [hanswer, true_and]
          exact ⟨h.sending, h.receiving, by rw [hleft, hcontents]⟩
      | nil =>
          have hitems : (holds q.state).items = [] := by rw [hcontents, hqueue]
          rw [Outbox.receive_of_nil hwriter hqueue]
          by_cases hopen : box.sender = .opened
          · obtain ⟨hanswer, hleft⟩ := hfifo.receive_empty q.state hthere hitems
              (by rw [hcontents, decide_eq_true hopen])
            simp only [hanswer, if_pos hopen, true_and]
            exact ⟨h.sending, h.receiving, hleft.trans hcontents⟩
          · obtain ⟨hanswer, hleft⟩ := hfifo.receive_disconnected q.state hthere hitems
              (by rw [hcontents, decide_eq_false hopen])
            simp only [hanswer, if_neg hopen, true_and]
            exact ⟨h.sending, h.receiving, hleft.trans hcontents⟩

/-- The writer goes once.  Without one nothing is queued that could be lost. -/
theorem Mirrors.dropWriter (h : q.Mirrors holds box) (hfifo : channel.IsFifo holds)
    (hsound : box.Sound) : (q.dropWriter channel).Mirrors holds box.dropWriter := by
  have hcontents := h.contents
  cases hwriter : box.writer with
  | false =>
      have hreceiving : ¬ q.receiving = true := by simp [h.receiving, hwriter]
      have hsame : q.dropWriter channel = q := if_neg hreceiving
      have hbox : box.dropWriter = box := by
        rw [Outbox.dropWriter, ← hsound.empty hwriter, ← hwriter]
      rw [hsame, hbox]
      exact h
  | true =>
      have hreceiving : q.receiving = true := h.receiving.trans hwriter
      have hdropped := hfifo.dropReceiver q.state (by rw [hcontents, hwriter])
      simp only [Queued.dropWriter, if_pos hreceiving]
      exact ⟨h.sending, rfl, by rw [hdropped, hcontents]; rfl⟩

/-- One operation is answered as by the outbox, and mirrors it after that. -/
theorem Mirrors.perform (h : q.Mirrors holds box) (hfifo : channel.IsFifo holds)
    (hsound : box.Sound) (operation : Outbox.Operation) :
    (q.perform channel operation).1 = (box.perform operation).1 ∧
      (q.perform channel operation).2.Mirrors holds (box.perform operation).2 := by
  cases operation with
  | send frame =>
      obtain ⟨hanswer, hnext⟩ := h.send hfifo frame
      exact ⟨congrArg Outbox.Answer.sent hanswer, hnext⟩
  | close =>
      refine ⟨rfl, ?_⟩
      by_cases hopen : box.sender = .opened
      · rw [Outbox.perform, Outbox.close, if_pos hopen]
        exact h.close hfifo (by decide)
      · rw [Queued.perform, h.close_of_not_opened hopen, Outbox.perform, Outbox.close, if_neg hopen]
        exact h
  | drop => exact ⟨rfl, h.close hfifo (by decide)⟩
  | receive =>
      obtain ⟨hanswer, hnext⟩ := h.receive hfifo
      exact ⟨congrArg Outbox.Answer.received hanswer, hnext⟩
  | dropWriter => exact ⟨rfl, h.dropWriter hfifo hsound⟩

theorem Mirrors.isOpen (h : q.Mirrors holds box) (hfifo : channel.IsFifo holds) :
    q.isOpen channel = decide (box.isOpen? = some true) := by
  have hcontents := h.contents
  rw [Queued.isOpen, h.sending, Outbox.isOpen?]
  cases hopen : box.sender with
  | opened =>
      rw [hfifo.isClosed q.state (by rw [hcontents, hopen]; rfl), hcontents]
      cases box.writer <;> rfl
  | closed => rfl
  | dropped => rfl

/-- A connection over a channel that is first in, first out, shows what an outbox shows: the same
answers, the same openness, the same commands in the channel. -/
theorem Mirrors.run_shows (h : q.Mirrors holds box) (hfifo : channel.IsFifo holds)
    (hsound : box.Sound) (operations : List Outbox.Operation) :
    (q.run channel operations).map
        (fun step => (step.1, step.2.isOpen channel, (holds step.2.state).items)) =
      (box.run operations).map
        (fun step => (step.1, decide (step.2.isOpen? = some true), step.2.queue)) := by
  induction operations generalizing q box with
  | nil => rfl
  | cons operation rest ih =>
      obtain ⟨hanswer, hnext⟩ := h.perform hfifo hsound operation
      have hlater := ih hnext ((box.perform_becomes operation).sound hsound)
      have hitems : (holds (q.perform channel operation).2.state).items =
          (box.perform operation).2.queue := by rw [hnext.contents]
      rw [Queued.run, Outbox.run, List.map_cons, List.map_cons, hlater, hanswer,
        hnext.isOpen hfifo, hitems]

/-- Over a bounded channel, first in, first out, a connection shows what an outbox shows, whatever
is done at its two ends, and these can count on what `Outbox.Delivers` says: the writer receives the
frames that were accepted, and then the closing command if there was room for it. -/
theorem delivers_what_was_accepted (channel : Channel State) (holds : State → Channel.Contents)
    (hfifo : channel.IsFifo holds) (capacity : Nat) (hadmitted : max capacity 1 ≤ channel.limit)
    (operations : List Outbox.Operation) :
    let box := Outbox.new capacity
    ((connect channel capacity).run channel operations).map
        (fun step => (step.1, step.2.isOpen channel, (holds step.2.state).items)) =
      (box.run operations).map
        (fun step => (step.1, decide (step.2.isOpen? = some true), step.2.queue)) ∧
      Outbox.Delivers capacity operations (box.after operations)
        (Outbox.received (box.answers operations)) (box.promised operations) :=
  ⟨(connect_mirrors hfifo hadmitted).run_shows hfifo (.new capacity) operations,
    Outbox.delivers capacity operations⟩

/-- Without room the second frame is refused and the closing command is lost: the writer receives
the one frame that was accepted, and is told that nothing more will come. -/
theorem delivers_without_room_for_marker :
    let operations : List Outbox.Operation := [.send [1], .send [2], .close, .receive]
    let box := (Outbox.new 0).after operations
    Channel.listed.IsFifo id ∧ max 0 1 ≤ Channel.listed.limit ∧
      ((connect Channel.listed 0).run Channel.listed operations).map
          (fun step => (step.1, step.2.isOpen Channel.listed, step.2.state.items)) =
        [(.sent (.ok ()), true, [.frame [1]]),
          (.sent (.error (.transport Outbox.queueFull)), true, [.frame [1]]),
          (.done, false, [.frame [1]]),
          (.received (.command (.frame [1])), false, [])] ∧
      (Outbox.new 0).promised operations = [.frame [1]] ∧ box.receive.1 = .disconnected := by
  intro operations box
  have hadmitted : max 0 1 ≤ Channel.listed.limit := by decide
  obtain ⟨hshows, hdelivers⟩ := delivers_what_was_accepted Channel.listed id
    Channel.listed_isFifo 0 hadmitted operations
  exact ⟨Channel.listed_isFifo, hadmitted, hshows, rfl, hdelivers.next (by decide)⟩

end Queued

end GatewayLogin
