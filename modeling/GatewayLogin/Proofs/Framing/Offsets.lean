/-
The arithmetic behind a verdict.

Offsets are 64-bit words.  `Framing.decodeInSteps` reaches the verdict on a buffer by one sum, one
difference and two splits, and says which of these has no result if one has none.  Only the sum can
go wrong, and only behind a length so close to the last offset that no buffer ever holds such a
frame; where the steps go right they end where `Framing.decode` does.  Main statement:
`Framing.steps_leave_offsets_iff`.
-/
import GatewayLogin.Proofs.Framing.Verdict
import GatewayLogin.Proofs.Wire.Digits

namespace GatewayLogin.Framing

/-- How a step of the arithmetic can have no result. -/
inductive Misstep where
  /-- A sum lies beyond every offset. -/
  | sum
  /-- A difference lies below zero. -/
  | difference
  /-- More bytes are split off a buffer than there are. -/
  | beyondEnd
deriving Repr, DecidableEq

/-- The sum of two offsets. -/
def offsetSum (m n : Nat) : Except Misstep Nat :=
  if m + n < offsetLimit then .ok (m + n) else .error .sum

/-- The difference of two offsets. -/
def offsetDifference (m n : Nat) : Except Misstep Nat :=
  if n ≤ m then .ok (m - n) else .error .difference

/-- Split a number of bytes off the front of a buffer. -/
def splitOff (count : Nat) (buffer : Bytes) : Except Misstep (Bytes × Bytes) :=
  if count ≤ buffer.length then .ok (buffer.take count, buffer.drop count) else .error .beyondEnd

/-- Judge the first frame of a buffer and take it off, every step of the arithmetic checked.  Where
more bytes are needed, the difference is how many; room for them is then asked for, and whether
there is any is left out here. -/
def decodeInSteps (framing : Framing) (buffer : Bytes) : Except Misstep (Verdict × Bytes) :=
  match Varint.read.readAt buffer 0 with
  | .error fault =>
      .ok (if buffer.length < Varint.maxLength then .more else .fault fault, buffer)
  | .ok (length, header) =>
      if framing.maxFrameSize < length then .ok (.fault (.oversizedFrame length.toNat), buffer)
      else do
        let stop ← offsetSum header length.toNat
        if buffer.length < stop then
          let _missing ← offsetDifference stop buffer.length
          return (.more, buffer)
        else
          let (_, behind) ← splitOff header buffer
          let (body, rest) ← splitOff length.toNat behind
          return (.frame body, rest)

/-- A buffer announces a frame that the maximum allows and that ends beyond every offset. -/
def EndsBeyond (framing : Framing) (buffer : Bytes) : Prop :=
  ∃ header length rest, buffer = header ++ rest ∧ Varint.Form header length ∧
    2 ^ 64 - 10 ≤ length.toNat ∧ length ≤ framing.maxFrameSize

theorem offsetSum_of_lt {m n : Nat} (h : m + n < offsetLimit) : offsetSum m n = .ok (m + n) :=
  if_pos h

theorem offsetSum_of_le {m n : Nat} (h : offsetLimit ≤ m + n) : offsetSum m n = .error .sum :=
  if_neg (Nat.not_lt.mpr h)

theorem offsetDifference_of_le {m n : Nat} (h : n ≤ m) : offsetDifference m n = .ok (m - n) :=
  if_pos h

theorem splitOff_of_le {count : Nat} {buffer : Bytes} (h : count ≤ buffer.length) :
    splitOff count buffer = .ok (buffer.take count, buffer.drop count) :=
  if_pos h

theorem splitOff_append (front rest : Bytes) :
    splitOff front.length (front ++ rest) = .ok (front, rest) := by
  rw [splitOff_of_le (by simp), List.take_left, List.drop_left]

variable {framing : Framing} {header : Bytes} {length : UInt64}

/-- A length takes the sum beyond every offset exactly if it is one of the last ten words, for these
take ten bytes. -/
theorem offsetLimit_le_iff (h : Varint.Form header length) :
    offsetLimit ≤ header.length + length.toNat ↔ 2 ^ 64 - 10 ≤ length.toNat := by
  have hshort : header.length ≤ 10 := h.length_le
  simp only [offsetLimit, UInt64.size]
  constructor
  · intro hbeyond
    omega
  · intro hlarge
    have hbits : 63 ≤ length.toNat.log2 := (Nat.le_log2 (by omega)).mpr (by omega)
    have hlong := (Varint.shortest_of_spells h.spells).1
    rw [Varint.length_groups] at hlong
    omega

/-- Behind a whole length only the sum can go wrong. -/
theorem decodeInSteps_of_form (framing : Framing) (h : Varint.Form header length) (rest : Bytes) :
    framing.decodeInSteps (header ++ rest) =
      if length ≤ framing.maxFrameSize ∧ offsetLimit ≤ header.length + length.toNat then
        .error .sum
      else .ok (framing.decode (header ++ rest)) := by
  have hread : Varint.read.readAt (header ++ rest) 0 = .ok (length, header.length) := by
    have hform : Varint.read (header ++ rest) = .ok (length, rest) :=
      Varint.read_reads.read_append h rest
    simp only [Reader.readAt, List.drop_zero, hform, List.length_append, Nat.add_sub_cancel_right]
  simp only [decodeInSteps, hread, decode_of_form framing h]
  by_cases hmax : framing.maxFrameSize < length
  · have hsize : framing.maxFrameSize.toNat < length.toNat := hmax
    rw [if_pos hmax, if_pos hsize, if_neg (fun hfits => UInt64.not_le.mpr hmax hfits.1)]
  have hsize : ¬ framing.maxFrameSize.toNat < length.toNat := hmax
  rw [if_neg hmax, if_neg hsize]
  by_cases hbeyond : offsetLimit ≤ header.length + length.toNat
  · rw [if_pos ⟨UInt64.not_lt.mp hmax, hbeyond⟩, offsetSum_of_le hbeyond]
    rfl
  rw [if_neg (fun hfits => hbeyond hfits.2), if_neg hbeyond,
    offsetSum_of_lt (Nat.lt_of_not_le hbeyond)]
  have hstop : (header ++ rest).length < header.length + length.toNat ↔
      rest.length < length.toNat := by
    simp
  simp only [bind, Except.bind, hstop]
  by_cases hmore : rest.length < length.toNat
  · rw [if_pos hmore, if_pos hmore, offsetDifference_of_le (Nat.le_of_lt (hstop.mpr hmore))]
    rfl
  · simp only [if_neg hmore, splitOff_append, splitOff_of_le (Nat.le_of_not_lt hmore)]
    rfl

theorem decodeInSteps_of_fault (framing : Framing) {buffer : Bytes} {fault : Fault}
    (h : Varint.read buffer = .error fault) :
    framing.decodeInSteps buffer = .ok (framing.decode buffer) := by
  rw [decode_of_fault framing h]
  simp only [decodeInSteps, Reader.readAt, List.drop_zero, h]

/-- Only the length that a buffer begins with can end beyond every offset. -/
theorem endsBeyond_iff (h : Varint.Form header length) (rest : Bytes) :
    framing.EndsBeyond (header ++ rest) ↔
      2 ^ 64 - 10 ≤ length.toNat ∧ length ≤ framing.maxFrameSize := by
  constructor
  · rintro ⟨other, word, after, heq, hform, hends⟩
    have hread : Varint.read (header ++ rest) = .ok (length, rest) :=
      Varint.read_reads.read_append h rest
    rw [heq, Varint.read_reads.read_append hform after] at hread
    cases hread
    exact hends
  · intro hends
    exact ⟨header, length, rest, rfl, h, hends⟩

theorem not_endsBeyond_of_fault {buffer : Bytes} {fault : Fault}
    (h : Varint.read buffer = .error fault) : ¬ framing.EndsBeyond buffer := by
  rintro ⟨header, length, rest, rfl, hform, -⟩
  rw [Varint.read_reads.read_append hform rest] at h
  cases h

/-- Every step has a result unless the buffer announces a frame that ends beyond every offset. -/
theorem decodeInSteps_eq (framing : Framing) (buffer : Bytes)
    [Decidable (framing.EndsBeyond buffer)] :
    framing.decodeInSteps buffer =
      if framing.EndsBeyond buffer then .error .sum else .ok (framing.decode buffer) := by
  rcases form_or_fault buffer with ⟨header, length, rest, rfl, hform⟩ | ⟨fault, hfault⟩
  · rw [decodeInSteps_of_form framing hform]
    refine if_congr ?_ rfl rfl
    rw [endsBeyond_iff hform, offsetLimit_le_iff hform, and_comm]
  · rw [decodeInSteps_of_fault framing hfault, if_neg (not_endsBeyond_of_fault hfault)]

/-- The verdict on a buffer is an overflow exactly if it announces a frame that ends beyond every
offset. -/
theorem decode_eq_overflow_iff {buffer : Bytes} :
    (framing.decode buffer).1 = .overflow ↔ framing.EndsBeyond buffer := by
  constructor
  · intro h
    obtain ⟨left, hdecode⟩ : ∃ left, framing.decode buffer = (.overflow, left) :=
      ⟨_, Prod.ext h rfl⟩
    cases judges_of_decode hdecode with
    | overflow hheader hmax hend =>
        exact ⟨_, _, _, rfl, hheader, (offsetLimit_le_iff hheader).mp hend, hmax⟩
  · rintro ⟨header, length, rest, rfl, hheader, hlarge, hmax⟩
    have hend := (offsetLimit_le_iff hheader).mpr hlarge
    exact congrArg Prod.fst (Judges.overflow hheader hmax hend).decode_eq

/-- Whatever the maximum and the buffer are, no difference goes below zero and no more is split off
than there is.  The sum lies beyond every offset exactly if the buffer announces a frame that the
maximum allows and whose length is one of the last ten words.  In all other cases each step has a
result, and the steps end with the verdict and the buffer that decoding ends with. -/
theorem steps_leave_offsets_iff (framing : Framing) (buffer : Bytes) :
    (∀ misstep, framing.decodeInSteps buffer = .error misstep ↔
      misstep = .sum ∧ framing.EndsBeyond buffer) ∧
    ∀ verdict left, framing.decodeInSteps buffer = .ok (verdict, left) ↔
      framing.decode buffer = (verdict, left) ∧ verdict ≠ .overflow := by
  classical
  rw [decodeInSteps_eq]
  by_cases hends : framing.EndsBeyond buffer
  · have hoverflow := decode_eq_overflow_iff.mpr hends
    simp only [hends, if_true, and_true]
    constructor
    · intro misstep
      simp [eq_comm]
    · intro verdict left
      constructor
      · intro hsteps
        cases hsteps
      · rintro ⟨hdecode, hno⟩
        rw [hdecode] at hoverflow
        exact absurd hoverflow hno
  · have hverdict := mt decode_eq_overflow_iff.mp hends
    simp only [hends, if_false, and_false, iff_false]
    constructor
    · intro misstep hsteps
      cases hsteps
    · intro verdict left
      constructor
      · intro hsteps
        have hdecode := Except.ok.inj hsteps
        rw [hdecode] at hverdict
        exact ⟨hdecode, hverdict⟩
      · rintro ⟨hdecode, -⟩
        rw [hdecode]

/-- The largest word announced under the largest maximum: ten bytes are there, and the sum of the
two lies beyond every offset. -/
theorem largest_length_leaves_offsets :
    Framing.decodeInSteps ⟨0xFFFFFFFFFFFFFFFF⟩ (List.replicate 9 0xFF ++ [0x01]) = .error .sum := by
  decide +kernel

end GatewayLogin.Framing
