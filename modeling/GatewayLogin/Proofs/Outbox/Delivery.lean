/-
What comes out of an outbox.

Whatever is done at the two ends, the writer receives the frames that were accepted, in order, and
then the closing command if there was room for it when the outbox was shut first.  What is promised
to the writer is what it has received and what is queued (`Outbox.flows_of_opened`); a shut outbox
promises nothing new (`Outbox.flows_of_shut`), and without a writer nothing is received.  Main
statement: `Outbox.delivers`.
-/
import GatewayLogin.Outbox

namespace GatewayLogin

namespace Outbox

/-- Whether an operation lets the sending half go. -/
def Operation.shuts : Operation → Bool
  | close => true
  | drop => true
  | _ => false

/-- The frame that an operation sends. -/
def Operation.frames : Operation → List Frame
  | send frame => [frame]
  | _ => []

def Answer.isAccepted : Answer → Bool
  | sent (.ok _) => true
  | _ => false

/-- The command that an answer brings. -/
def Answer.commands : Answer → List Outbound
  | received (.command command) => [command]
  | _ => []

/-- The frames that were sent with success, in order. -/
def accepted (operations : List Operation) (answers : List Answer) : List Frame :=
  (operations.zip answers).flatMap fun call => if call.2.isAccepted then call.1.frames else []

/-- The commands that were received, in order. -/
def received (answers : List Answer) : List Outbound := answers.flatMap Answer.commands

def answers (box : Outbox) (operations : List Operation) : List Answer :=
  (box.run operations).map Prod.fst

/-- The outbox after some operations. -/
def after (box : Outbox) (operations : List Operation) : Outbox :=
  operations.foldl (fun box operation => (box.perform operation).2) box

/-- The command, if there is a writer and room for one more. -/
def admitted (box : Outbox) (command : Outbound) : List Outbound :=
  if box.writer ∧ box.queue.length < box.capacity then [command] else []

/-- The closing command, if there is a writer and room for it when the outbox is first shut. -/
def marker (box : Outbox) (operations : List Operation) : List Outbound :=
  if operations.any Operation.shuts then
    (box.after (operations.takeWhile fun operation => !operation.shuts)).admitted .close
  else []

/-- What the writer is to receive if it stays. -/
def promised (box : Outbox) (operations : List Operation) : List Outbound :=
  (accepted operations (box.answers operations)).map .frame ++ box.marker operations

/-- What the two ends of an outbox can count on after some operations. -/
structure Delivers (capacity : Nat) (operations : List Operation) (box : Outbox)
    (taken promised : List Outbound) : Prop where
  /-- What the writer received before it went came in order. -/
  begun : taken <+: promised
  /-- As long as there is a writer, nothing is lost or doubled. -/
  kept : .dropWriter ∉ operations → taken ++ box.queue = promised
  /-- The writer goes on with what it has not received.  It is told that nothing will come only once
  the outbox is shut and everything is received. -/
  next : .dropWriter ∉ operations →
    box.receive.1 =
      match promised.drop taken.length with
      | command :: _ => .command command
      | [] => if operations.any Operation.shuts then .disconnected else .empty
  gone : .dropWriter ∈ operations → box.queue = [] ∧ box.receive.1 = .noWriter
  bounded : box.queue.length ≤ max 1 capacity
  accepts : ∀ frame, (box.send frame).1 = .ok () ↔
    operations.any Operation.shuts = false ∧ .dropWriter ∉ operations ∧
      box.queue.length < max 1 capacity
  refuses : ∀ frame fault, (box.send frame).1 = .error fault → (box.send frame).2 = box
  isOpen : box.isOpen? = some true ↔
    operations.any Operation.shuts = false ∧ .dropWriter ∉ operations

variable {box : Outbox} {operation : Operation} {operations : List Operation}

theorem verdict_of_not_opened (h : box.sender ≠ .opened) : box.verdict = .error .notOpen :=
  if_pos h

theorem verdict_eq_ok_iff :
    box.verdict = .ok () ↔
      box.sender = .opened ∧ box.writer = true ∧ box.queue.length < box.capacity := by
  unfold verdict
  by_cases hopen : box.sender = .opened
  · by_cases hwriter : box.writer = true
    · by_cases hfull : box.capacity ≤ box.queue.length
      · simp [hopen, hwriter, hfull, Nat.not_lt.mpr hfull]
      · simp [hopen, hwriter, hfull, Nat.lt_of_not_le hfull]
    · simp [hopen, hwriter]
  · simp [hopen]

/-- An open outbox says of a frame whether there is a writer and room. -/
theorem verdict_cases (h : box.sender = .opened) :
    (box.verdict = .ok () ∧ ∀ command, box.admitted command = [command]) ∨
      ∃ fault, box.verdict = .error fault ∧ ∀ command, box.admitted command = [] := by
  cases hverdict : box.verdict with
  | ok _ =>
      obtain ⟨-, hadmits⟩ := verdict_eq_ok_iff.mp hverdict
      exact .inl ⟨rfl, fun command => if_pos hadmits⟩
  | error fault =>
      have hrefuses : ¬ (box.writer = true ∧ box.queue.length < box.capacity) := by
        intro hadmits
        rw [verdict_eq_ok_iff.mpr ⟨h, hadmits⟩] at hverdict
        cases hverdict
      exact .inr ⟨fault, rfl, fun command => if_neg hrefuses⟩

theorem send_of_opened (h : box.sender = .opened) (frame : Frame) :
    (box.send frame).2 = { box with queue := box.queue ++ box.admitted (.frame frame) } := by
  rcases verdict_cases h with ⟨hverdict, hadmits⟩ | ⟨fault, hverdict, hadmits⟩
  · simp only [send, hverdict, hadmits]
  · simp only [send, hverdict, hadmits, List.append_nil]

theorem send_of_not_opened (h : box.sender ≠ .opened) (frame : Frame) :
    box.send frame = (.error .notOpen, box) := by
  simp only [send, verdict_of_not_opened h]

theorem shut_of_opened (h : box.sender = .opened) (sender : Sender) :
    box.shut sender = { box with queue := box.queue ++ box.admitted .close, sender } := by
  rcases verdict_cases h with ⟨hverdict, hadmits⟩ | ⟨fault, hverdict, hadmits⟩
  · simp only [shut, hverdict, hadmits]
  · simp only [shut, hverdict, hadmits, List.append_nil]

theorem shut_of_not_opened (h : box.sender ≠ .opened) (sender : Sender) :
    box.shut sender = { box with sender } := by
  simp only [shut, verdict_of_not_opened h]

theorem receive_of_no_writer (h : box.writer = false) : box.receive = (.noWriter, box) := by
  simp only [receive, h, Bool.not_false, if_true]

theorem receive_of_cons (h : box.writer = true) {command : Outbound} {rest : List Outbound}
    (hqueue : box.queue = command :: rest) :
    box.receive = (.command command, { box with queue := rest }) := by
  have hnot : ¬ (!box.writer) = true := by simp [h]
  simp only [receive, if_neg hnot, hqueue]

theorem receive_of_nil (h : box.writer = true) (hqueue : box.queue = []) :
    box.receive = (if box.sender = .opened then .empty else .disconnected, box) := by
  have hnot : ¬ (!box.writer) = true := by simp [h]
  simp only [receive, if_neg hnot, hqueue]

/-- All that an operation can do to an outbox. -/
inductive Becomes (box : Outbox) : Operation → Answer × Outbox → Prop where
  | sent {frame : Frame} (h : box.sender = .opened) :
      Becomes box (.send frame) (.sent box.verdict,
        { box with queue := box.queue ++ box.admitted (.frame frame) })
  | unsent {frame : Frame} (h : box.sender ≠ .opened) :
      Becomes box (.send frame) (.sent (.error .notOpen), box)
  | shut {operation : Operation} {sender : Sender} (hshuts : operation.shuts = true)
      (h : box.sender = .opened) (hsender : sender ≠ .opened) :
      Becomes box operation (.done, { box with queue := box.queue ++ box.admitted .close, sender })
  | stayedShut {operation : Operation} {sender : Sender} (hshuts : operation.shuts = true)
      (h : box.sender ≠ .opened) (hsender : sender ≠ .opened) :
      Becomes box operation (.done, { box with sender })
  | taken {command : Outbound} {rest : List Outbound} (h : box.writer = true)
      (hqueue : box.queue = command :: rest) :
      Becomes box .receive (.received (.command command), { box with queue := rest })
  | untaken {found : Received} (hfound : (Answer.received found).commands = []) :
      Becomes box .receive (.received found, box)
  | dropped : Becomes box .dropWriter (.done, { box with queue := [], writer := false })

theorem perform_becomes (box : Outbox) (operation : Operation) :
    box.Becomes operation (box.perform operation) := by
  cases operation with
  | send frame =>
      by_cases hopen : box.sender = .opened
      · have hfirst : (box.send frame).1 = box.verdict := by
          unfold send
          cases box.verdict <;> rfl
        rw [perform, hfirst, send_of_opened hopen]
        exact .sent hopen
      · rw [perform, send_of_not_opened hopen]
        exact .unsent hopen
  | close =>
      by_cases hopen : box.sender = .opened
      · rw [perform, close, if_pos hopen, shut_of_opened hopen]
        exact .shut rfl hopen (by decide)
      · rw [perform, close, if_neg hopen]
        exact .stayedShut rfl hopen hopen
  | drop =>
      by_cases hopen : box.sender = .opened
      · rw [perform, drop, shut_of_opened hopen]
        exact .shut rfl hopen (by decide)
      · rw [perform, drop, shut_of_not_opened hopen]
        exact .stayedShut rfl hopen (by decide)
  | receive =>
      cases hwriter : box.writer with
      | false =>
          rw [perform, receive_of_no_writer hwriter]
          exact .untaken rfl
      | true =>
          cases hqueue : box.queue with
          | nil =>
              rw [perform, receive_of_nil hwriter hqueue]
              refine .untaken ?_
              split <;> rfl
          | cons command rest =>
              rw [perform, receive_of_cons hwriter hqueue]
              exact .taken hwriter hqueue
  | dropWriter => exact .dropped

/-- What an operation does to the halves. -/
theorem Becomes.halves {step : Answer × Outbox} (h : box.Becomes operation step) :
    step.2.capacity = box.capacity ∧
      (step.2.writer = true ↔ box.writer = true ∧ operation ≠ .dropWriter) ∧
      (step.2.sender = .opened ↔ box.sender = .opened ∧ operation.shuts = false) := by
  cases h with
  | sent => simp [Operation.shuts]
  | unsent => simp [Operation.shuts]
  | shut hshuts hopen hsender =>
      have hnot : operation ≠ .dropWriter := by
        rintro rfl
        cases hshuts
      simp [hshuts, hsender, hnot]
  | stayedShut hshuts hopen hsender =>
      have hnot : operation ≠ .dropWriter := by
        rintro rfl
        cases hshuts
      simp [hshuts, hsender, hnot]
  | taken => simp [Operation.shuts]
  | untaken => simp [Operation.shuts]
  | dropped => simp [Operation.shuts]

theorem after_halves (box : Outbox) (operations : List Operation) :
    (box.after operations).capacity = box.capacity ∧
      ((box.after operations).writer = true ↔ box.writer = true ∧ .dropWriter ∉ operations) ∧
      ((box.after operations).sender = .opened ↔
        box.sender = .opened ∧ operations.any Operation.shuts = false) := by
  induction operations generalizing box with
  | nil => simp [after]
  | cons operation rest ih =>
      obtain ⟨hcapacity, hwriter, hopen⟩ := (box.perform_becomes operation).halves
      obtain ⟨hlater, hstays, hstaysOpen⟩ := ih (box.perform operation).2
      refine ⟨hlater.trans hcapacity, ?_, ?_⟩
      · rw [List.mem_cons, not_or, ← and_assoc, ← ne_eq, ne_comm, ← hwriter]
        exact hstays
      · rw [List.any_cons, Bool.or_eq_false_iff, ← and_assoc, ← hopen]
        exact hstaysOpen

/-- No more is queued than there is room for, and nothing without a writer. -/
structure Sound (box : Outbox) : Prop where
  empty : box.writer = false → box.queue = []
  bounded : box.queue.length ≤ box.capacity

theorem Sound.new (capacity : Nat) : (Outbox.new capacity).Sound :=
  ⟨fun _ => rfl, Nat.zero_le _⟩

theorem Sound.append_admitted (h : box.Sound) (command : Outbound) (sender : Sender) :
    ({ box with queue := box.queue ++ box.admitted command, sender } : Outbox).Sound := by
  by_cases hadmits : box.writer = true ∧ box.queue.length < box.capacity
  · rw [admitted, if_pos hadmits]
    refine ⟨fun hgone => ?_, ?_⟩
    · cases hadmits.1.symm.trans hgone
    · rw [List.length_append]
      exact hadmits.2
  · rw [admitted, if_neg hadmits, List.append_nil]
    exact ⟨h.empty, h.bounded⟩

theorem Becomes.sound {step : Answer × Outbox} (hstep : box.Becomes operation step)
    (h : box.Sound) : step.2.Sound := by
  cases hstep with
  | sent => exact h.append_admitted _ _
  | unsent => exact h
  | shut => exact h.append_admitted _ _
  | stayedShut => exact ⟨h.empty, h.bounded⟩
  | @taken command rest hwriter hqueue =>
      have hbounded := h.bounded
      rw [hqueue, List.length_cons] at hbounded
      refine ⟨fun hgone => ?_, Nat.le_of_succ_le hbounded⟩
      cases hwriter.symm.trans hgone
  | untaken => exact h
  | dropped => exact ⟨fun _ => rfl, Nat.zero_le _⟩

theorem Sound.after (h : box.Sound) (operations : List Operation) :
    (box.after operations).Sound := by
  induction operations generalizing box with
  | nil => exact h
  | cons operation rest ih => exact ih ((box.perform_becomes operation).sound h)

theorem received_cons (box : Outbox) (operation : Operation) (rest : List Operation) :
    received (box.answers (operation :: rest)) =
      (box.perform operation).1.commands ++ received ((box.perform operation).2.answers rest) := rfl

theorem accepted_cons (box : Outbox) (operation : Operation) (rest : List Operation) :
    accepted (operation :: rest) (box.answers (operation :: rest)) =
      (if (box.perform operation).1.isAccepted then operation.frames else []) ++
        accepted rest ((box.perform operation).2.answers rest) := rfl

theorem marker_cons_of_shuts (h : operation.shuts = true) (box : Outbox) (rest : List Operation) :
    box.marker (operation :: rest) = box.admitted .close := by
  simp [marker, h, after]

theorem marker_cons (h : operation.shuts = false) (box : Outbox) (rest : List Operation) :
    box.marker (operation :: rest) = (box.perform operation).2.marker rest := by
  simp [marker, h, after]

/-- The writer receives from the start of what it is owed, and all of it if it stays. -/
structure Flows (box : Outbox) (operations : List Operation) (owed : List Outbound) : Prop where
  begun : received (box.answers operations) <+: owed
  kept : (box.after operations).writer = true →
    received (box.answers operations) ++ (box.after operations).queue = owed

/-- What an operation brings the writer comes in front of what is owed after it. -/
theorem Flows.cons {owed : List Outbound} (h : (box.perform operation).2.Flows operations owed) :
    box.Flows (operation :: operations) ((box.perform operation).1.commands ++ owed) := by
  refine ⟨?_, fun hwriter => ?_⟩
  · rw [received_cons, List.prefix_append_right_inj]
    exact h.begun
  · rw [received_cons, List.append_assoc]
    exact congrArg _ (h.kept hwriter)

theorem received_of_no_writer (h : box.writer = false) (operations : List Operation) :
    received (box.answers operations) = [] := by
  induction operations generalizing box with
  | nil => rfl
  | cons operation rest ih =>
      have hstep := box.perform_becomes operation
      rw [received_cons]
      generalize box.perform operation = step at hstep
      cases hstep with
      | taken hwriter => cases h.symm.trans hwriter
      | untaken hfound =>
          rw [hfound]
          exact ih h
      | dropped => exact ih rfl
      | _ => exact ih h

/-- Without a writer whatever is owed is lost. -/
theorem flows_of_no_writer (h : box.writer = false) (operations : List Operation)
    (owed : List Outbound) : box.Flows operations owed := by
  refine ⟨?_, fun hwriter => ?_⟩
  · rw [received_of_no_writer h]
    exact List.nil_prefix
  · have hthere := ((box.after_halves operations).2.1.mp hwriter).1
    cases h.symm.trans hthere

theorem accepted_of_not_opened (h : box.sender ≠ .opened) (operations : List Operation) :
    accepted operations (box.answers operations) = [] := by
  induction operations generalizing box with
  | nil => rfl
  | cons operation rest ih =>
      have hstep := box.perform_becomes operation
      rw [accepted_cons]
      generalize box.perform operation = step at hstep
      cases hstep with
      | sent hopen => exact absurd hopen h
      | shut _ hopen => exact absurd hopen h
      | stayedShut _ _ hsender => exact ih hsender
      | _ => exact ih h

/-- Once shut, an outbox owes what is queued. -/
theorem flows_of_not_opened (h : box.sender ≠ .opened) (operations : List Operation) :
    box.Flows operations box.queue := by
  induction operations generalizing box with
  | nil => exact ⟨List.nil_prefix, fun _ => rfl⟩
  | cons operation rest ih =>
      have hstep := box.perform_becomes operation
      have hcons (owed : List Outbound) (hrest : (box.perform operation).2.Flows rest owed) :=
        hrest.cons
      generalize box.perform operation = step at hstep hcons
      cases hstep with
      | sent hopen => exact absurd hopen h
      | unsent => exact hcons _ (ih h)
      | shut _ hopen => exact absurd hopen h
      | stayedShut _ _ hsender => exact hcons _ (ih hsender)
      | taken hwriter hqueue =>
          rw [hqueue]
          exact hcons _ (ih h)
      | untaken hfound =>
          rw [← List.nil_append box.queue, ← hfound]
          exact hcons _ (ih h)
      | dropped => exact hcons _ (flows_of_no_writer rfl rest _)

/-- Once an outbox is shut, the closing command alone is promised. -/
theorem promised_cons_of_shuts (hshuts : operation.shuts = true) (box : Outbox)
    (rest : List Operation) :
    box.promised (operation :: rest) = box.admitted .close := by
  have hstep := box.perform_becomes operation
  have hshut : (box.perform operation).2.sender ≠ .opened := by
    rw [ne_eq, hstep.halves.2.2, hshuts]
    simp
  rw [promised, marker_cons_of_shuts hshuts, accepted_cons, accepted_of_not_opened hshut]
  generalize box.perform operation = step at hstep
  cases hstep with
  | shut => rfl
  | stayedShut => rfl
  | _ => cases hshuts

theorem promised_cons (hshuts : operation.shuts = false) (box : Outbox) (rest : List Operation) :
    box.promised (operation :: rest) =
      (if (box.perform operation).1.isAccepted then operation.frames else []).map .frame ++
        (box.perform operation).2.promised rest := by
  rw [promised, promised, marker_cons hshuts, accepted_cons, List.map_append, List.append_assoc]

/-- A frame is accepted if it is queued. -/
theorem map_frame_accepted (h : box.sender = .opened) (frame : Frame) :
    (if (Answer.sent box.verdict).isAccepted then [frame] else []).map .frame =
      box.admitted (.frame frame) := by
  rcases verdict_cases h with ⟨hverdict, hadmits⟩ | ⟨fault, hverdict, hadmits⟩
  · rw [hverdict, hadmits]
    rfl
  · rw [hverdict, hadmits]
    rfl

/-- An open outbox owes what is queued, and then what is promised. -/
theorem flows_of_opened (h : box.sender = .opened) (operations : List Operation) :
    box.Flows operations (box.queue ++ box.promised operations) := by
  induction operations generalizing box with
  | nil =>
      have hnothing : box.promised [] = [] := rfl
      rw [hnothing, List.append_nil]
      exact ⟨List.nil_prefix, fun _ => rfl⟩
  | cons operation rest ih =>
      have hstep := box.perform_becomes operation
      have hcons (owed : List Outbound) (hrest : (box.perform operation).2.Flows rest owed) :=
        hrest.cons
      generalize hnext : box.perform operation = step at hstep hcons
      cases hstep with
      | @sent frame =>
          rw [promised_cons rfl, hnext, Operation.frames, map_frame_accepted h, ← List.append_assoc]
          exact hcons _ (ih h)
      | unsent hopen => exact absurd h hopen
      | shut hshuts _ hsender =>
          rw [promised_cons_of_shuts hshuts]
          exact hcons _ (flows_of_not_opened hsender rest)
      | stayedShut _ hopen => exact absurd h hopen
      | taken hwriter hqueue =>
          rw [promised_cons rfl, hnext, hqueue]
          exact hcons _ (ih h)
      | untaken hfound =>
          rw [promised_cons rfl, hnext, ← List.nil_append (box.queue ++ _), ← hfound]
          exact hcons _ (ih h)
      | dropped => exact hcons _ (flows_of_no_writer rfl rest _)

/-- Whatever is done with a fresh outbox, its two ends can count on what `Delivers` says. -/
theorem delivers (capacity : Nat) (operations : List Operation) :
    Delivers capacity operations ((new capacity).after operations)
      (received ((new capacity).answers operations)) ((new capacity).promised operations) := by
  have hflows : (new capacity).Flows operations ((new capacity).promised operations) :=
    flows_of_opened rfl operations
  obtain ⟨hcapacity, hwriter, hopen⟩ := (new capacity).after_halves operations
  obtain ⟨hempty, hbounded⟩ := (Sound.new capacity).after operations
  obtain ⟨hbegun, hkept⟩ := hflows
  generalize (new capacity).after operations = box at *
  generalize received ((new capacity).answers operations) = taken at *
  have hroom : box.capacity = max 1 capacity := hcapacity.trans (Nat.max_comm ..)
  have hthere : box.writer = true ↔ .dropWriter ∉ operations := hwriter.trans (and_iff_right rfl)
  have hopened : box.sender = .opened ↔ operations.any Operation.shuts = false :=
    hopen.trans (and_iff_right rfl)
  have hgone (h : .dropWriter ∈ operations) : box.writer = false := by
    cases hwriter : box.writer with
    | false => rfl
    | true => exact absurd h (hthere.mp hwriter)
  refine ⟨hbegun, fun h => hkept (hthere.mpr h), ?_, ?_, ?_, ?_, ?_, ?_⟩
  · intro h
    rw [← hkept (hthere.mpr h), List.drop_left]
    cases hqueue : box.queue with
    | cons command rest => rw [receive_of_cons (hthere.mpr h) hqueue]
    | nil =>
        rw [receive_of_nil (hthere.mpr h) hqueue]
        by_cases hshut : operations.any Operation.shuts = true
        · have hclosed : box.sender ≠ .opened := by
            rw [ne_eq, hopened, hshut]
            simp
          rw [if_pos hshut, if_neg hclosed]
        · rw [if_neg hshut, if_pos (hopened.mpr (Bool.eq_false_iff.mpr hshut))]
  · intro h
    rw [receive_of_no_writer (hgone h)]
    exact ⟨hempty (hgone h), rfl⟩
  · rw [← hroom]
    exact hbounded
  · intro frame
    rw [← hopened, ← hthere, ← hroom, ← verdict_eq_ok_iff, send]
    cases box.verdict <;> simp
  · intro frame fault h
    rw [send] at h ⊢
    cases hverdict : box.verdict with
    | error fault => rfl
    | ok _ => simp [hverdict] at h
  · rw [← hopened, ← hthere, isOpen?]
    cases box.sender <;> simp

end Outbox

end GatewayLogin
