/-
Which streams are frames and nothing else, and what a buffer is like that is not cut any further.

`Framing.Carries` describes these streams without mention of a decoder.  What is taken off a buffer
is always of this form (`Framing.drain_taken`), and a stream of this form is taken off whole
(`Framing.drain_of_carries`).  Main statement: `Framing.drain_takes_carried_frames`.
-/
import GatewayLogin.Proofs.Framing.Chunks

namespace GatewayLogin.Framing

variable {framing : Framing}

/-- The stream is the frames one after another, each behind some admitted form of its length, and
none longer than the maximum. -/
inductive Carries (framing : Framing) : List Frame → Bytes → Prop where
  | nil : Carries framing [] []
  | cons {header body rest : Bytes} {length : UInt64} {frames : List Frame}
      (hheader : Varint.Form header length) (hbody : body.length = length.toNat)
      (hmax : length.toNat ≤ framing.maxFrameSize.toNat) (hrest : Carries framing frames rest) :
      Carries framing (body :: frames) (header ++ (body ++ rest))

/-- What a drain takes off is the frames it gives, and the rest is left. -/
theorem drain_taken (framing : Framing) (buffer : Bytes) :
    ∃ taken, buffer = taken ++ (framing.drain buffer).left ∧
      framing.Carries (framing.drain buffer).frames taken := by
  induction buffer using cutting_induction framing with
  | frame buffer body rest hframe ih =>
      obtain ⟨taken, hrest, hcarries⟩ := ih
      rw [drain_of_frame hframe]
      cases judges_of_decode hframe with
      | @frame header _ _ _ hheader hbody hmax =>
          refine ⟨header ++ (body ++ taken), ?_, .cons hheader hbody hmax hcarries⟩
          rw [List.append_assoc, List.append_assoc, ← hrest]
  | ending buffer ending h =>
      rw [drain_of_ending ending h]
      exact ⟨[], rfl, .nil⟩

theorem drain_of_carries (hroom : framing.maxFrameSize.toNat ≤ 2 ^ 64 - 1 - 10)
    {frames : List Frame} {stream : Bytes} (h : framing.Carries frames stream) :
    framing.drain stream = ⟨frames, .more, []⟩ := by
  induction h with
  | nil => exact drain_of_ending .more rfl
  | cons hheader hbody hmax hrest ih =>
      have hend := end_lt_offsetLimit hroom hheader hmax
      rw [drain_of_frame (Judges.frame hheader hbody hmax hend).decode_eq, ih]

theorem drain_eq_iff_carries (hroom : framing.maxFrameSize.toNat ≤ 2 ^ 64 - 1 - 10)
    (frames : List Frame) (stream : Bytes) :
    framing.drain stream = ⟨frames, .more, []⟩ ↔ framing.Carries frames stream := by
  constructor
  · intro h
    obtain ⟨taken, hstream, hcarries⟩ := drain_taken framing stream
    rw [h] at hstream hcarries
    rwa [hstream, List.append_nil]
  · exact drain_of_carries hroom

/-- A buffer that needs more is short of the longest frame behind the longest form of its length. -/
theorem length_le_of_more {buffer left : Bytes} (h : framing.decode buffer = (.more, left)) :
    buffer.length ≤ framing.maxFrameSize.toNat + 9 := by
  cases judges_of_decode h with
  | insideBody hheader hmax hend hpart =>
      have hshort := hheader.length_le
      simp only [Varint.maxLength] at hshort
      rw [List.length_append]
      omega
  | insideLength hread hshort =>
      simp only [Varint.maxLength] at hshort
      omega

/-- A length that has not arrived whole is waited for. -/
theorem decode_of_unfinished (framing : Framing) {part missing : Bytes} {length : UInt64}
    (hform : Varint.Form (part ++ missing) length) (hmissing : missing ≠ []) :
    framing.decode part = (.more, part) := by
  rcases form_or_fault part with ⟨header, other, after, rfl, hother⟩ | ⟨fault, hfault⟩
  · -- No admitted form goes on behind another one.
    have hread := Varint.read_reads.read_append hform []
    rw [List.append_nil, List.append_assoc, Varint.read_reads.read_append hother] at hread
    simp_all
  · have hwhole := hform.length_le
    have hlength := List.length_pos_iff.mpr hmissing
    rw [List.length_append] at hwhole
    exact (Judges.insideLength hfault (by omega)).decode_eq

/-- A chunk arrives, and the buffer is judged once. -/
def Buffers.hear (framing : Framing) (buffers : Buffers) (chunk : Bytes) : Buffers :=
  ((buffers.arrive chunk).take framing).2

/-- Behind a fault nothing is taken any more, and the fault stays the same. -/
theorem hear_of_fault {buffers : Buffers} {fault : Fault}
    (h : framing.decode buffers.input = (.fault fault, buffers.input)) (chunks : List Bytes) :
    (chunks.foldl (Buffers.hear framing) buffers).input = buffers.input ++ chunks.flatten ∧
      (framing.decode (chunks.foldl (Buffers.hear framing) buffers).input).1 = .fault fault := by
  induction chunks generalizing buffers with
  | nil => exact ⟨(List.append_nil _).symm, congrArg Prod.fst h⟩
  | cons chunk rest ih =>
      have hstill : framing.decode (buffers.arrive chunk).input =
          (.fault fault, (buffers.arrive chunk).input) := decode_fault_append h chunk
      have hheard : buffers.hear framing chunk = buffers.arrive chunk := by
        rw [Buffers.hear, Buffers.take, hstill]
      obtain ⟨hinput, hfault⟩ := ih hstill
      rw [List.foldl_cons, hheard]
      refine ⟨?_, hfault⟩
      rw [hinput, List.flatten_cons, ← List.append_assoc]
      rfl

/-- Under any maximum that leaves room for a length: draining ends without a fault and without
anything left exactly if the stream is frames one after another, and it gives these frames.  From
any stream it takes off frames one after another and leaves all else.  A buffer that needs more or
is at fault stays as it is; one that needs more is short of the longest frame behind its length; a
length above the maximum is waited for until it is whole and then refused before any of the body;
and behind a fault nothing is taken any more, and the fault stays the same whatever arrives. -/
theorem drain_takes_carried_frames (framing : Framing)
    (hroom : framing.maxFrameSize.toNat ≤ 2 ^ 64 - 1 - 10) :
    (∀ stream frames,
      framing.drain stream = ⟨frames, .more, []⟩ ↔ framing.Carries frames stream) ∧
    (∀ stream, (framing.drain stream).ending ≠ .overflow ∧
      ∃ taken, stream = taken ++ (framing.drain stream).left ∧
        framing.Carries (framing.drain stream).frames taken) ∧
    (∀ buffers : Buffers, (∀ body, (buffers.take framing).1 ≠ .frame body) →
      (buffers.take framing).2 = buffers) ∧
    (∀ buffer, (framing.decode buffer).1 = .more →
      buffer.length ≤ framing.maxFrameSize.toNat + 9) ∧
    (∀ header length, Varint.Form header length → framing.maxFrameSize.toNat < length.toNat →
      (∀ part missing, header = part ++ missing → missing ≠ [] →
        framing.decode part = (.more, part)) ∧
      ∀ body, framing.decode (header ++ body) =
        (.fault (.oversizedFrame length.toNat), header ++ body)) ∧
    ∀ (buffers : Buffers) fault, (framing.decode buffers.input).1 = .fault fault →
      ∀ chunks : List Bytes,
        (chunks.foldl (Buffers.hear framing) buffers).input = buffers.input ++ chunks.flatten ∧
          (framing.decode (chunks.foldl (Buffers.hear framing) buffers).input).1 =
            .fault fault := by
  refine ⟨fun stream frames => drain_eq_iff_carries hroom frames stream, ?_, ?_, ?_, ?_, ?_⟩
  · intro stream
    refine ⟨?_, drain_taken framing stream⟩
    intro hoverflow
    have hleft := decode_left framing stream
    rw [hoverflow] at hleft
    exact decode_ne_overflow hroom _ _ hleft
  · intro buffers hframe
    have hleft : (framing.decode buffers.input).2 = buffers.input := decode_leaves rfl hframe
    simp only [Buffers.take, hleft]
  · intro buffer hmore
    exact length_le_of_more (Prod.ext hmore rfl)
  · intro header length hform hmax
    refine ⟨?_, ?_⟩
    · rintro part missing rfl hmissing
      exact decode_of_unfinished framing hform hmissing
    · intro body
      exact (Judges.oversized hform hmax).decode_eq
  · intro buffers fault hfault
    have hframe (body : Frame) : (framing.decode buffers.input).1 ≠ .frame body := by
      rw [hfault]
      simp
    exact hear_of_fault (Prod.ext hfault (decode_leaves rfl hframe))

/-- Two frames behind a length that is longer than it had to be, the fullest buffer that still needs
more, and a length above the maximum before its last byte, behind it, and for good. -/
theorem drain_takes_padded_lengths :
    (⟨4⟩ : Framing).maxFrameSize.toNat ≤ 2 ^ 64 - 1 - 10 ∧
    Carries ⟨4⟩ [[0xAA, 0xBB], []] [0x82, 0x00, 0xAA, 0xBB, 0x00] ∧
    ((decode ⟨4⟩ ([0x84] ++ List.replicate 8 0x80 ++ [0x00, 0xAA, 0xBB, 0xCC])).1 = .more ∧
      ([0x84] ++ List.replicate 8 0x80 ++ [0x00, 0xAA, 0xBB, 0xCC] : Bytes).length ≤
        (⟨4⟩ : Framing).maxFrameSize.toNat + 9) ∧
    (Varint.Form [0x85, 0x00] 5 ∧ decode ⟨4⟩ [0x85] = (.more, [0x85]) ∧
      decode ⟨4⟩ ([0x85, 0x00] ++ []) = (.fault (.oversizedFrame 5), [0x85, 0x00] ++ [])) ∧
    (decode ⟨4⟩ ([[0x01], [], [0xAA]].foldl (Buffers.hear ⟨4⟩) ⟨[0x85, 0x00], []⟩).input).1 =
      .fault (.oversizedFrame 5) := by
  have hroom : (⟨4⟩ : Framing).maxFrameSize.toNat ≤ 2 ^ 64 - 1 - 10 := by decide
  have hdrained : drain ⟨4⟩ [0x82, 0x00, 0xAA, 0xBB, 0x00] = ⟨[[0xAA, 0xBB], []], .more, []⟩ := by
    decide +kernel
  have hfull :
      (decode ⟨4⟩ ([0x84] ++ List.replicate 8 0x80 ++ [0x00, 0xAA, 0xBB, 0xCC])).1 = .more := rfl
  have hform : Varint.Form [0x85, 0x00] 5 :=
    ⟨.more (b := 0x85) (by decide) (.last (b := 0x00) (by decide)), by decide⟩
  obtain ⟨hcarried, -, -, hshort, hlong, hfault⟩ := drain_takes_carried_frames ⟨4⟩ hroom
  obtain ⟨hwaits, hrefused⟩ := hlong [0x85, 0x00] 5 hform (by decide)
  exact ⟨hroom, (hcarried _ _).mp hdrained, ⟨hfull, hshort _ hfull⟩,
    ⟨hform, hwaits [0x85] [0x00] rfl (by simp), hrefused []⟩,
    (hfault ⟨[0x85, 0x00], []⟩ _ (congrArg Prod.fst (hrefused [])) [[0x01], [], [0xAA]]).2⟩

end GatewayLogin.Framing
