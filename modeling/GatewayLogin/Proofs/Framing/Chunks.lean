/-
Streams cut into chunks.

Draining a buffer and then feeding the next chunk comes to the same as draining both at once
(`Framing.drain_append`), because a frame that was taken once is taken again when more follows.
Hence the way in which a stream is cut does not matter.  Main statement:
`Framing.feedAll_eq_drain_flatten`.
-/
import Mathlib.Data.List.Induction
import GatewayLogin.Proofs.Framing.Verdict

namespace GatewayLogin.Framing

variable {framing : Framing}

/-- The verdict that ended a drain. -/
def Ending.verdict : Ending → Verdict
  | .more => .more
  | .fault cause => .fault cause
  | .overflow => .overflow

theorem drain_of_frame {buffer body rest : Bytes}
    (h : framing.decode buffer = (.frame body, rest)) :
    framing.drain buffer =
      { framing.drain rest with frames := body :: (framing.drain rest).frames } := by
  rw [drain]
  split
  · rename_i hframe
    cases h.symm.trans hframe
    rfl
  all_goals
    rename_i hother
    cases h.symm.trans hother

theorem drain_of_ending {buffer : Bytes} (ending : Ending)
    (h : framing.decode buffer = (ending.verdict, buffer)) :
    framing.drain buffer = ⟨[], ending, buffer⟩ := by
  rw [drain]
  cases ending <;> split <;> rename_i hother <;> cases h.symm.trans hother <;> rfl

/-- From any buffer frames are taken off until one is left that ends the drain and stays as it
is. -/
theorem cutting_induction (framing : Framing) {motive : Bytes → Prop}
    (frame : ∀ buffer body rest, framing.decode buffer = (.frame body, rest) → motive rest →
      motive buffer)
    (ending : ∀ buffer (ending : Ending), framing.decode buffer = (ending.verdict, buffer) →
      motive buffer)
    (buffer : Bytes) : motive buffer := by
  fun_induction drain framing buffer with
  | case1 buffer body rest hframe later ih => exact frame buffer body rest hframe ih
  | case2 buffer left h =>
      obtain rfl := decode_leaves h (by simp)
      exact ending left .more h
  | case3 buffer fault left h =>
      obtain rfl := decode_leaves h (by simp)
      exact ending left (.fault fault) h
  | case4 buffer left h =>
      obtain rfl := decode_leaves h (by simp)
      exact ending left .overflow h

/-- What is left gives no further frame. -/
theorem decode_left (framing : Framing) (buffer : Bytes) :
    framing.decode (framing.drain buffer).left =
      ((framing.drain buffer).ending.verdict, (framing.drain buffer).left) := by
  induction buffer using cutting_induction framing with
  | frame buffer body rest hframe ih =>
      rw [drain_of_frame hframe]
      exact ih
  | ending buffer ending h =>
      rw [drain_of_ending ending h]
      exact h

theorem drain_append (framing : Framing) (buffer more : Bytes) :
    framing.drain (buffer ++ more) = framing.feed (framing.drain buffer) more := by
  induction buffer using cutting_induction framing with
  | frame buffer body rest hframe ih =>
      rw [drain_of_frame (decode_frame_append hframe more), drain_of_frame hframe, ih]
      rfl
  | ending buffer ending h =>
      rw [drain_of_ending ending h]
      rfl

theorem feedAll_concat (framing : Framing) (chunks : List Bytes) (chunk : Bytes) :
    framing.feedAll (chunks ++ [chunk]) = framing.feed (framing.feedAll chunks) chunk := by
  rw [feedAll, List.foldl_append]
  rfl

theorem feedAll_eq (framing : Framing) (chunks : List Bytes) :
    framing.feedAll chunks = framing.drain chunks.flatten := by
  induction chunks using List.reverseRecOn with
  | nil => exact (drain_of_ending .more rfl).symm
  | append_singleton chunks chunk ih =>
      rw [feedAll_concat, ih, ← drain_append, List.flatten_concat]

/-- Nothing is taken any more behind a fault. -/
theorem feed_of_fault {state : Drained} {fault : Fault} (hending : state.ending = .fault fault)
    (hleft : framing.decode state.left = (.fault fault, state.left)) (more : Bytes) :
    framing.feed state more = { state with left := state.left ++ more } := by
  rw [feed, drain_of_ending (.fault fault) (decode_fault_append hleft more)]
  simp [hending]

theorem feedAll_of_fault {before : List Bytes} {fault : Fault}
    (h : (framing.feedAll before).ending = .fault fault) (after : List Bytes) :
    framing.feedAll (before ++ after) =
      { framing.feedAll before with left := (framing.feedAll before).left ++ after.flatten } := by
  have hleft := decode_left framing before.flatten
  rw [← feedAll_eq, h] at hleft
  rw [feedAll_eq framing (before ++ after), List.flatten_append, drain_append, ← feedAll_eq,
    feed_of_fault h hleft]

/-- However a stream is cut into chunks, the same frames are taken from it, for the same reason no
further one is, and the same is left.  That reason is the need for more or a fault of the stream,
and behind a fault everything is left, whatever still comes. -/
theorem feedAll_eq_drain_flatten (framing : Framing)
    (hmax : framing.maxFrameSize.toNat ≤ 2 ^ 64 - 1 - 10) (chunks : List Bytes) :
    framing.feedAll chunks = framing.drain chunks.flatten ∧
    (framing.feedAll chunks).ending ≠ .overflow ∧
    ∀ before after fault, chunks = before ++ after →
      (framing.feedAll before).ending = .fault fault →
      framing.feedAll chunks =
        { framing.feedAll before with left := (framing.feedAll before).left ++ after.flatten } := by
  refine ⟨feedAll_eq framing chunks, ?_, ?_⟩
  · intro hoverflow
    have hleft := decode_left framing chunks.flatten
    rw [← feedAll_eq, hoverflow] at hleft
    exact decode_ne_overflow hmax _ _ hleft
  · rintro before after fault rfl hfault
    exact feedAll_of_fault hfault after

/-- A cut inside a frame, one inside a length that is longer than it had to be, and one behind the
fault that this length is. -/
theorem feedAll_cut_inside_oversized_length :
    (⟨4⟩ : Framing).maxFrameSize.toNat ≤ 2 ^ 64 - 1 - 10 ∧
    feedAll ⟨4⟩ [[0x02, 0xAA], [0xBB, 0x85], [0x00, 0x01]] =
      ⟨[[0xAA, 0xBB]], .fault (.oversizedFrame 5), [0x85, 0x00, 0x01]⟩ ∧
    feedAll ⟨4⟩ [[0x02, 0xAA], [0xBB, 0x85], [0x00, 0x01], [0x01, 0xCC]] =
      drain ⟨4⟩ [0x02, 0xAA, 0xBB, 0x85, 0x00, 0x01, 0x01, 0xCC] ∧
    feedAll ⟨4⟩ [[0x02, 0xAA], [0xBB, 0x85], [0x00, 0x01], [0x01, 0xCC]] =
      ⟨[[0xAA, 0xBB]], .fault (.oversizedFrame 5), [0x85, 0x00, 0x01, 0x01, 0xCC]⟩ := by
  have hmax : (⟨4⟩ : Framing).maxFrameSize.toNat ≤ 2 ^ 64 - 1 - 10 := by decide
  have hbefore : feedAll ⟨4⟩ [[0x02, 0xAA], [0xBB, 0x85], [0x00, 0x01]] =
      ⟨[[0xAA, 0xBB]], .fault (.oversizedFrame 5), [0x85, 0x00, 0x01]⟩ := by decide +kernel
  obtain ⟨hwhole, _, hbehind⟩ := feedAll_eq_drain_flatten ⟨4⟩ hmax
    [[0x02, 0xAA], [0xBB, 0x85], [0x00, 0x01], [0x01, 0xCC]]
  refine ⟨hmax, hbefore, hwhole, ?_⟩
  rw [hbehind [[0x02, 0xAA], [0xBB, 0x85], [0x00, 0x01]] [[0x01, 0xCC]] (.oversizedFrame 5) rfl
    (by rw [hbefore]), hbefore]
  rfl

end GatewayLogin.Framing
