/-
Notices: all that the user is told over a run of a session.

Every notification says something, and a login is reported as a success exactly if its code is zero.
Refused logins aside, the result of a login comes right behind the notice that its connection
opened, so that there is one for each such notice at most.  Main statement:
`Session.notices_in_order`.
-/
import GatewayLogin.Proofs.Session.Reachable
import GatewayLogin.Proofs.Session.Told

namespace GatewayLogin

namespace Notification

/-- Whether a notification says that a connection opened. -/
def isUp : Notification → Bool
  | status connected _ => connected
  | login .. => false

/-- Whether a notification tells how a login ended. -/
def isResult : Notification → Bool
  | status .. => false
  | login .. => true

/-- It says something, and the result of a login is a success exactly if its code is zero. -/
def Sound : Notification → Prop
  | status _ message => message ≠ ""
  | login success code message => message ≠ "" ∧ (success = true ↔ code = 0)

@[simp] theorem sound_status (connected : Bool) (message : String) :
    (status connected message).Sound ↔ message ≠ "" := Iff.rfl

/-- What is told of a login that is refused. -/
def refusal : Notification := status false "incomplete login information"

/-- Every result of a login comes right behind the notice that a connection opened. -/
def Heralded (told : List Notification) : Prop :=
  ∀ before result after, told = before ++ result :: after → result.isResult = true →
    ∃ up, before.getLast? = some up ∧ up.isUp = true

variable {told : List Notification}

theorem heralded_nil : Heralded [] := by
  intro before result after hsplit
  simp at hsplit

theorem Heralded.of_append {before after : List Notification} (h : Heralded (before ++ after)) :
    Heralded before := by
  rintro first result rest rfl
  apply h first result (rest ++ after)
  simp

theorem Heralded.concat {notice : Notification} (h : Heralded told)
    (hup : notice.isResult = true → ∃ up, told.getLast? = some up ∧ up.isUp = true) :
    Heralded (told ++ [notice]) := by
  intro before result after hsplit hresult
  rcases List.eq_nil_or_concat after with rfl | ⟨between, final, rfl⟩
  · obtain ⟨rfl, hlast⟩ := List.append_inj' hsplit rfl
    obtain rfl : notice = result := by simpa using hlast
    exact hup hresult
  · rw [List.concat_eq_append, ← List.cons_append, ← List.append_assoc] at hsplit
    obtain ⟨rfl, -⟩ := List.append_inj' hsplit rfl
    exact h before result between rfl hresult

/-- Whatever else is left out, no result loses its notice. -/
theorem Heralded.filter {keep : Notification → Bool} (h : Heralded told)
    (hup : ∀ notice : Notification, notice.isUp = true → keep notice = true) :
    Heralded (told.filter keep) := by
  intro before result after hsplit hresult
  obtain ⟨front, back, rfl, hfront, hback⟩ := List.filter_eq_append_iff.mp hsplit
  obtain ⟨dropped, rest, rfl, hdropped, -, -⟩ := List.filter_eq_cons_iff.mp hback
  obtain ⟨up, hlast, hisUp⟩ := h (front ++ dropped) result rest (by simp) hresult
  -- The notice is kept, so it is not among what was left out behind it.
  rcases List.eq_nil_or_concat dropped with rfl | ⟨others, final, rfl⟩
  · rw [List.append_nil] at hlast
    obtain ⟨earlier, rfl⟩ := List.getLast?_eq_some_iff.mp hlast
    refine ⟨up, ?_, hisUp⟩
    rw [← hfront, List.filter_append, List.filter_cons_of_pos (hup up hisUp), List.filter_nil,
      List.getLast?_concat]
  · have hfinal : final = up := by simpa using hlast
    exact absurd (hup final (hfinal ▸ hisUp)) (hdropped final (by simp))

/-- No notice brings two results. -/
theorem Heralded.results_le (h : Heralded told) :
    told.countP isResult + (told.getLast?.any isUp).toNat ≤ told.countP isUp := by
  induction told using List.reverseRecOn with
  | nil => simp
  | append_singleton before notice ih =>
      have hbefore := ih h.of_append
      rw [List.countP_append, List.countP_append, List.getLast?_concat]
      cases hresult : notice.isResult with
      | true =>
          obtain ⟨up, hlast, hisUp⟩ := h before notice [] rfl hresult
          have hdown : notice.isUp = false := by cases notice <;> simp_all [isUp, isResult]
          simp only [hlast, Option.any_some, hisUp, Bool.toNat_true] at hbefore
          simp [hresult, hdown, hbefore]
      | false =>
          cases hisUp : notice.isUp <;> simp [hresult, hisUp] <;> omega

end Notification

open Notification

theorem fallback_ne {fallback : String} (h : fallback ≠ "") (message : String) :
    (if message = "" then fallback else message) ≠ "" := by
  split
  · exact h
  · assumption

theorem FailureReason.message_ne (reason : FailureReason) : reason.message ≠ "" := by
  unfold message
  split <;> simp

theorem Packet.notice_sound (packet : Packet) : packet.notice.Sound := by
  unfold notice
  split
  · simp [Sound, fallback_ne]
  · simp [Sound, fallback_ne, *]

/-- Whether an operation hands over a connection that is taken up. -/
def Operation.opens : Operation → Reply → Bool
  | .transportOpened .., .taken taken => taken
  | _, _ => false

/-- Whether a reply refuses a login. -/
def Reply.isRefusal : Reply → Bool
  | .started (.error _) => true
  | _ => false

namespace Phase

/-- Whether a connection is open whose login is not concluded. -/
def isUnanswered : Phase → Bool
  | opened .. | waiting .. => true
  | _ => false

/-- What is told of all but refused logins. -/
def reports (phase : Phase) (operation : Operation) (reply : Reply) : List Notification :=
  if reply.isRefusal then [] else phase.tells operation reply

variable {phase next : Phase} {operation : Operation} {reply : Reply}

theorem Leads.tells_refusal (h : phase.Leads operation reply next) (hrefusal : reply.isRefusal) :
    phase.tells operation reply = [refusal] := by
  cases h with
  | refused => rfl
  | _ => simp [Reply.isRefusal] at hrefusal

theorem tells_sound (phase : Phase) (operation : Operation) (reply : Reply) :
    ∀ notice ∈ phase.tells operation reply, notice.Sound := by
  unfold tells
  split <;> simp [FailureReason.message_ne, Packet.notice_sound, fallback_ne]

theorem Leads.countP_tells (h : phase.Leads operation reply next) :
    (phase.tells operation reply).countP isUp = (operation.opens reply).toNat := by
  cases h <;> grind [tells, Operation.opens, Packet.notice, Phase.state, Phase.isOpened, isUp]

/-- Either nothing is reported, or one notice: a result only of a login that is unanswered, and a
login becomes unanswered only with the notice that its connection opened. -/
theorem Leads.reports_cases (h : phase.Leads operation reply next) :
    (phase.reports operation reply = [] ∧ (next.isUnanswered → phase.isUnanswered)) ∨
      ∃ notice, phase.reports operation reply = [notice] ∧
        (notice.isResult → phase.isUnanswered) ∧ (next.isUnanswered → notice.isUp) := by
  cases h with
  | refused | openedLate | timedOutLate | unreachedLate | erroredLate | sentTwice | unsolicited =>
      exact .inl ⟨rfl, id⟩
  | begun | sent => exact .inl ⟨rfl, by simp [isUnanswered]⟩
  | sentUnopened hstate =>
      have hclosed : phase.isOpened = false := by cases phase <;> simp_all [state, isOpened]
      exact .inl ⟨by simp [reports, Reply.isRefusal, tells, hclosed], id⟩
  | opened => exact .inr ⟨_, rfl, by simp [isResult], fun _ => rfl⟩
  | accepted | rejected => exact .inr ⟨_, rfl, fun _ => rfl, by simp [isUnanswered]⟩
  | timedOut | unreached | erroredDialing | erroredOpened | erroredWaiting | erroredSignedIn
  | unsent | disconnected => exact .inr ⟨_, rfl, by simp [isResult], by simp [isUnanswered]⟩
  | @closed _ reason =>
      cases hactive : phase.state.isActive with
      | false =>
          exact .inl ⟨by simp [reports, Reply.isRefusal, tells, hactive], by simp [isUnanswered]⟩
      | true =>
          have htold :
              phase.reports (.transportClosed reason) (.taken (phase.state != .disconnected)) =
                [.status false
                  (if reason.getD "" = "" then "connection closed" else reason.getD "")] := by
            simp [reports, Reply.isRefusal, tells, hactive]
          exact .inr ⟨_, htold, by simp [isResult], by simp [isUnanswered]⟩

end Phase

namespace Session

/-- The sum of what operations weigh, each judged by the session that it finds and by its reply. -/
def total (weight : Session → Operation → Reply → Nat) (s : Session) : List Operation → Nat
  | [] => 0
  | operation :: rest =>
      weight s operation (s.perform operation).reply
        + (s.perform operation).session.total weight rest

/-- How many connections are taken up. -/
def opens (s : Session) (operations : List Operation) : Nat :=
  s.total (fun _ operation reply => (operation.opens reply).toNat) operations

/-- All that the user is told, in order. -/
def told (s : Session) (operations : List Operation) : List Notification :=
  Effect.notifications (s.effects operations)

/-- All that the user is told by anything but refused logins, in order. -/
def reported (s : Session) (operations : List Operation) : List Notification :=
  (s.steps operations).flatMap fun step =>
    if step.reply.isRefusal then [] else Effect.notifications step.effects

variable {s : Session} {phase : Phase}

theorem total_concat (weight : Session → Operation → Reply → Nat) (s : Session)
    (before : List Operation) (operation : Operation) :
    s.total weight (before ++ [operation]) =
      s.total weight before
        + weight (s.run before) operation ((s.run before).perform operation).reply := by
  induction before generalizing s with
  | nil => simp [total, run]
  | cons first before ih =>
      simp only [List.cons_append, total, ih, Nat.add_assoc]
      rfl

theorem steps_concat (s : Session) (before : List Operation) (operation : Operation) :
    s.steps (before ++ [operation]) = s.steps before ++ [(s.run before).perform operation] := by
  induction before generalizing s with
  | nil => rfl
  | cons first before ih =>
      simp only [List.cons_append, steps, ih]
      rfl

theorem told_concat (s : Session) (before : List Operation) (operation : Operation) :
    s.told (before ++ [operation]) =
      s.told before ++ Effect.notifications ((s.run before).perform operation).effects := by
  simp [told, effects, steps_concat]

theorem reported_concat (h : (s.run before).At phase) (operation : Operation) :
    s.reported (before ++ [operation]) =
      s.reported before ++ phase.reports operation ((s.run before).perform operation).reply := by
  simp [reported, steps_concat, Phase.reports, perform_tells h]

/-- A refused login is told as that and nothing else. -/
theorem At.refusal_told (h : s.At phase) {operation : Operation}
    (hrefusal : (s.perform operation).reply.isRefusal) :
    Effect.notifications (s.perform operation).effects = [refusal] := by
  obtain ⟨next, hleads, -⟩ := perform_leads h operation
  rw [perform_tells h, hleads.tells_refusal hrefusal]

theorem told_sound (settings : ClientSettings) (operations : List Operation) :
    ∀ notice ∈ (new settings).told operations, notice.Sound := by
  induction operations using List.reverseRecOn with
  | nil => simp [told, effects, steps]
  | append_singleton before operation ih =>
      obtain ⟨phase, hat, -⟩ := run_at settings before
      rw [told_concat, perform_tells hat]
      intro notice hnotice
      rcases List.mem_append.mp hnotice with hold | hnew
      · exact ih notice hold
      · exact phase.tells_sound operation _ notice hnew

theorem countP_told (settings : ClientSettings) (operations : List Operation) :
    ((new settings).told operations).countP isUp = (new settings).opens operations := by
  induction operations using List.reverseRecOn with
  | nil => rfl
  | append_singleton before operation ih =>
      obtain ⟨phase, hat, -⟩ := run_at settings before
      obtain ⟨next, hleads, -⟩ := perform_leads hat operation
      rw [told_concat, perform_tells hat, List.countP_append, ih, hleads.countP_tells, opens, opens,
        total_concat]

theorem filter_told (settings : ClientSettings) (operations : List Operation) :
    ((new settings).told operations).filter (· ≠ refusal) =
      ((new settings).reported operations).filter (· ≠ refusal) := by
  induction operations using List.reverseRecOn with
  | nil => rfl
  | append_singleton before operation ih =>
      obtain ⟨phase, hat, -⟩ := run_at settings before
      rw [told_concat, reported_concat hat, List.filter_append, List.filter_append, ih,
        Phase.reports]
      split
      · rename_i hrefusal
        rw [hat.refusal_told hrefusal]
        rfl
      · rw [perform_tells hat]

/-- While a login is unanswered, the last that was reported is that its connection opened. -/
theorem run_reported (settings : ClientSettings) (operations : List Operation) :
    ∃ phase, ((new settings).run operations).At phase ∧
      Heralded ((new settings).reported operations) ∧
      (phase.isUnanswered → ∃ up, ((new settings).reported operations).getLast? = some up ∧
        up.isUp = true) := by
  induction operations using List.reverseRecOn with
  | nil => exact ⟨.idle, new_at settings, heralded_nil, by simp [Phase.isUnanswered]⟩
  | append_singleton before operation ih =>
      obtain ⟨phase, hat, hheralded, hlast⟩ := ih
      obtain ⟨next, hleads, hnext⟩ := perform_leads hat operation
      rw [run_concat, reported_concat hat]
      rcases hleads.reports_cases with ⟨hnone, hstay⟩ | ⟨notice, hone, hresult, hup⟩
      · rw [hnone, List.append_nil]
        exact ⟨next, hnext, hheralded, fun hwaits => hlast (hstay hwaits)⟩
      · rw [hone, List.getLast?_concat]
        exact ⟨next, hnext, hheralded.concat fun h => hlast (hresult h),
          fun hwaits => ⟨notice, rfl, hup hwaits⟩⟩

theorem steps_refusal (h : s.At phase) (operations : List Operation) :
    ∀ step ∈ s.steps operations, step.reply.isRefusal →
      Effect.notifications step.effects = [refusal] := by
  induction operations generalizing s phase with
  | nil => simp [steps]
  | cons operation rest ih =>
      obtain ⟨next, -, hnext⟩ := perform_leads h operation
      intro step hstep
      rcases List.mem_cons.mp hstep with rfl | hlater
      · exact h.refusal_told
      · exact ih hnext step hlater

/-- Whatever is done with a session, every notification says something, and a login is reported as a
success exactly if its code is zero.  A refused login is told as that and nothing else.  Leaving
these out, every result of a login comes right behind the notice that a connection opened.  Such a
notice comes once for each connection that is taken up, and results are at most as many. -/
theorem notices_in_order (settings : ClientSettings) (operations : List Operation) :
    let told := (new settings).told operations
    (∀ notice ∈ told, notice.Sound) ∧
      (∀ step ∈ (new settings).steps operations, step.reply.isRefusal →
        Effect.notifications step.effects = [refusal]) ∧
      Heralded ((new settings).reported operations) ∧
      Heralded (told.filter (· ≠ refusal)) ∧
      told.countP isUp = (new settings).opens operations ∧
      told.countP isResult ≤ (new settings).opens operations := by
  intro told
  obtain ⟨phase, -, hheralded, -⟩ := run_reported settings operations
  have hkept : Heralded (told.filter (· ≠ refusal)) := by
    rw [filter_told]
    apply hheralded.filter
    rintro notice hup
    simpa using fun heq : notice = refusal => by simp [heq, refusal, isUp] at hup
  refine ⟨told_sound settings operations, steps_refusal (new_at settings) operations, hheralded,
    hkept, countP_told settings operations, ?_⟩
  have hresults : told.countP isResult = (told.filter (· ≠ refusal)).countP isResult := by
    rw [List.countP_filter]
    apply List.countP_congr
    intro notice _
    cases notice <;> simp [isResult, refusal]
  have hups : (told.filter (· ≠ refusal)).countP isUp ≤ told.countP isUp :=
    List.filter_sublist.countP_le
  have hle := hkept.results_le
  rw [countP_told] at hups
  omega

end Session

end GatewayLogin
