/-
What a stream comes to when nothing more arrives.

Behind the last whole frame of a stream there is nothing, a length that is refused, or the beginning
of a frame.  `Framing.Tail` says which without mention of a decoder, and what fault it is.  Every
stream is frames one after another and one such tail, in one way only.  Main statement:
`Framing.drain_iff_carries_tail`.
-/
import GatewayLogin.Proofs.Framing.Carried

namespace GatewayLogin.Framing

variable {framing : Framing}

/-- What can be left behind the last whole frame, and the fault that this is at the end of a
stream. -/
inductive Tail (framing : Framing) : Bytes → Option Fault → Prop where
  | nothing : Tail framing [] none
  | oversized {header rest : Bytes} {length : UInt64} (hheader : Varint.Form header length)
      (hmax : framing.maxFrameSize.toNat < length.toNat) :
      Tail framing (header ++ rest) (some (.oversizedFrame length.toNat))
  /-- As many bytes as a length can have, and no length begins there. -/
  | malformed {left : Bytes} (hlength : Varint.maxLength ≤ left.length)
      (hnone : ∀ header length, Varint.Form header length → ¬ header <+: left) :
      Tail framing left (some .malformedVarint)
  | insideLength {part missing : Bytes} {length : UInt64} (hpart : part ≠ [])
      (hmissing : missing ≠ []) (hheader : Varint.Form (part ++ missing) length) :
      Tail framing part (some (.io leftOver))
  | insideBody {header part : Bytes} {length : UInt64} (hheader : Varint.Form header length)
      (hmax : length.toNat ≤ framing.maxFrameSize.toNat) (hpart : part.length < length.toNat) :
      Tail framing (header ++ part) (some (.io leftOver))

/-- The fault at the end of a stream of which this much could be cut into frames. -/
def Drained.fault? (drained : Drained) : Option Fault :=
  match drained.ending with
  | .fault fault => some fault
  | .more => if drained.left.isEmpty then none else some (.io leftOver)
  | .overflow => none

theorem Drained.fault?_of_more (frames : List Frame) {left : Bytes} (h : left ≠ []) :
    (Drained.mk frames .more left).fault? = some (.io leftOver) := by
  simp [fault?, h]

/-- From a tail no frame is taken. -/
theorem Tail.drain (hroom : framing.maxFrameSize.toNat ≤ 2 ^ 64 - 1 - 10) {left : Bytes}
    {fault? : Option Fault} (h : framing.Tail left fault?) :
    (framing.drain left).frames = [] ∧ (framing.drain left).fault? = fault? := by
  cases h with
  | nothing =>
      rw [drain_of_ending .more rfl]
      exact ⟨rfl, rfl⟩
  | oversized hheader hmax =>
      rw [drain_of_ending (.fault _) (Judges.oversized hheader hmax).decode_eq]
      exact ⟨rfl, rfl⟩
  | malformed hlength hnone =>
      rcases form_or_fault left with ⟨header, length, rest, hleft, hform⟩ | ⟨fault, hfault⟩
      · exact absurd ⟨rest, hleft.symm⟩ (hnone header length hform)
      · have hcause : fault = .malformedVarint := Varint.read_fault hfault
        rw [drain_of_ending (.fault _) (Judges.malformed hfault hlength).decode_eq, hcause]
        exact ⟨rfl, rfl⟩
  | insideLength hpart hmissing hheader =>
      rw [drain_of_ending .more (decode_of_unfinished framing hheader hmissing)]
      exact ⟨rfl, Drained.fault?_of_more [] hpart⟩
  | @insideBody header part length hheader hmax hpart =>
      have hend := end_lt_offsetLimit hroom hheader hmax
      have hleft : header ++ part ≠ [] :=
        List.append_ne_nil_of_left_ne_nil hheader.spells.ne_nil _
      rw [drain_of_ending .more (Judges.insideBody hheader hmax hend hpart).decode_eq]
      exact ⟨rfl, Drained.fault?_of_more [] hleft⟩

/-- What is left where no frame can be taken is a tail. -/
theorem tail_of_ending (hroom : framing.maxFrameSize.toNat ≤ 2 ^ 64 - 1 - 10) {left : Bytes}
    (ending : Ending) (h : framing.decode left = (ending.verdict, left)) (frames : List Frame) :
    framing.Tail left (Drained.mk frames ending left).fault? := by
  cases ending with
  | overflow => exact absurd h (decode_ne_overflow hroom left left)
  | fault fault =>
      cases judges_of_decode h with
      | oversized hheader hmax => exact .oversized hheader hmax
      | malformed hread hlong =>
          have hcause := Varint.read_fault hread
          subst hcause
          refine .malformed hlong ?_
          rintro header length hform ⟨rest, rfl⟩
          -- A reader takes every admitted form.
          cases hread.symm.trans (Varint.read_reads.read_append hform rest)
  | more =>
      cases judges_of_decode h with
      | @insideBody header part length hheader hmax hend hpart =>
          have hleft : header ++ part ≠ [] :=
            List.append_ne_nil_of_left_ne_nil hheader.spells.ne_nil _
          rw [Drained.fault?_of_more frames hleft]
          exact .insideBody hheader hmax hpart
      | insideLength hread hshort =>
          by_cases hleft : left = []
          · subst hleft
            exact .nothing
          · obtain ⟨length, hform⟩ := Varint.form_of_fault hread hshort
            rw [Drained.fault?_of_more frames hleft]
            exact .insideLength hleft (by simp) hform

/-- Frames in front of other bytes are taken before these are looked at. -/
theorem drain_append_of_carries (hroom : framing.maxFrameSize.toNat ≤ 2 ^ 64 - 1 - 10)
    {frames : List Frame} {taken : Bytes} (h : framing.Carries frames taken) (left : Bytes) :
    framing.drain (taken ++ left) =
      { framing.drain left with frames := frames ++ (framing.drain left).frames } := by
  rw [drain_append, drain_of_carries hroom h]
  rfl

/-- Under any maximum that leaves room for a length: from a stream after which nothing more arrives
some frames are taken, with some fault in the end or none, exactly if the stream is these frames one
after another, and behind them a tail that is this fault or nothing. -/
theorem drain_iff_carries_tail (hroom : framing.maxFrameSize.toNat ≤ 2 ^ 64 - 1 - 10)
    (stream : Bytes) (frames : List Frame) (fault? : Option Fault) :
    ((framing.drain stream).frames = frames ∧ (framing.drain stream).fault? = fault?) ↔
      ∃ taken left, stream = taken ++ left ∧ framing.Carries frames taken ∧
        framing.Tail left fault? := by
  constructor
  · rintro ⟨rfl, rfl⟩
    obtain ⟨taken, hstream, hcarries⟩ := drain_taken framing stream
    have htail := tail_of_ending hroom _ (decode_left framing stream) (framing.drain stream).frames
    exact ⟨taken, _, hstream, hcarries, htail⟩
  · rintro ⟨taken, left, rfl, hcarries, htail⟩
    obtain ⟨hframes, hfault⟩ := htail.drain hroom
    rw [drain_append_of_carries hroom hcarries, hframes, List.append_nil]
    exact ⟨rfl, hfault⟩

end GatewayLogin.Framing
