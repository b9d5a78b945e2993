/-
Frames there and back over a stream.

Of several frames that are offered, those longer than the maximum are refused and leave no trace in
what is to be sent (`Framing.offerAll_eq`).  The others arrive one by one, however the stream is
cut.  Main statement: `Framing.offered_frames_arrive`.
-/
import GatewayLogin.Proofs.Framing.Carried
import GatewayLogin.Proofs.Wire.Field

namespace GatewayLogin.Framing

variable {framing : Framing}

/-- Offer several frames one after another. -/
def Buffers.offerAll (framing : Framing) (buffers : Buffers) :
    List Frame → List (Except Fault Unit) × Buffers
  | [] => ([], buffers)
  | frame :: rest =>
      let offered := buffers.send framing frame
      let later := offered.2.offerAll framing rest
      (offered.1 :: later.1, later.2)

/-- What a frame that is offered should be answered. -/
def answer (framing : Framing) (frame : Frame) : Except Fault Unit :=
  if frame.length ≤ framing.maxFrameSize.toNat then .ok ()
  else .error (.oversizedFrame frame.length)

/-- The frames that are not too long. -/
def admitted (framing : Framing) (frames : List Frame) : List Frame :=
  frames.filter fun frame => frame.length ≤ framing.maxFrameSize.toNat

theorem send_of_le {frame : Frame} (h : frame.length ≤ framing.maxFrameSize.toNat)
    (buffers : Buffers) :
    buffers.send framing frame =
      (.ok (), { buffers with output := buffers.output ++ Block.encode frame }) := by
  simp only [Buffers.send, encode, if_neg (Nat.not_lt.mpr h)]

theorem send_of_lt {frame : Frame} (h : framing.maxFrameSize.toNat < frame.length)
    (buffers : Buffers) :
    buffers.send framing frame = (.error (.oversizedFrame frame.length), buffers) := by
  simp only [Buffers.send, encode, if_pos h]

/-- The frames that are not too long are appended one after another, and nothing else is. -/
theorem offerAll_eq (framing : Framing) (buffers : Buffers) (frames : List Frame) :
    buffers.offerAll framing frames =
      (frames.map framing.answer,
        { buffers with
          output := buffers.output ++ (framing.admitted frames).flatMap Block.encode }) := by
  induction frames generalizing buffers with
  | nil => simp [Buffers.offerAll, admitted]
  | cons frame rest ih =>
      by_cases hfits : frame.length ≤ framing.maxFrameSize.toNat
      · have hadmitted : framing.admitted (frame :: rest) = frame :: framing.admitted rest := by
          simp [admitted, hfits]
        rw [Buffers.offerAll, send_of_le hfits, ih, hadmitted, List.flatMap_cons,
          List.map_cons, answer, if_pos hfits, List.append_assoc]
      · have hadmitted : framing.admitted (frame :: rest) = framing.admitted rest := by
          simp [admitted, hfits]
        rw [Buffers.offerAll, send_of_lt (Nat.lt_of_not_le hfits), ih, hadmitted, List.map_cons,
          answer, if_neg hfits]

/-- What is written for frames that are not too long carries them. -/
theorem carries_flatMap_encode {frames : List Frame}
    (h : ∀ frame ∈ frames, frame.length ≤ framing.maxFrameSize.toNat) :
    framing.Carries frames (frames.flatMap Block.encode) := by
  induction frames with
  | nil => exact .nil
  | cons frame rest ih =>
      obtain ⟨hfits, hrest⟩ := List.forall_mem_cons.mp h
      have hlength : frame.length.toUInt64.toNat = frame.length := by
        have hmax := framing.maxFrameSize.toNat_lt
        simp only [Nat.toUInt64, UInt64.toNat_ofNat']
        omega
      rw [List.flatMap_cons, Block.encode, List.append_assoc]
      exact .cons (Varint.encode_form _) hlength.symm (hlength.symm ▸ hfits) (ih hrest)

/-- Under any maximum that leaves room for a length: of frames that are offered one after another,
exactly those longer than the maximum are refused, and a refusal changes nothing.  What is appended
for all of them gives, however it is cut into chunks, the frames that were not refused, in order,
with no fault and nothing left. -/
theorem offered_frames_arrive (framing : Framing)
    (hroom : framing.maxFrameSize.toNat ≤ 2 ^ 64 - 1 - 10) (buffers : Buffers)
    (frames : List Frame) :
    (buffers.offerAll framing frames).1 = frames.map framing.answer ∧
    (∀ earlier frame, framing.maxFrameSize.toNat < frame.length →
      Buffers.send framing earlier frame = (.error (.oversizedFrame frame.length), earlier)) ∧
    ∃ stream,
      (buffers.offerAll framing frames).2 = { buffers with output := buffers.output ++ stream } ∧
        ∀ chunks : List Bytes, chunks.flatten = stream →
          framing.feedAll chunks = ⟨framing.admitted frames, .more, []⟩ := by
  refine ⟨by rw [offerAll_eq], fun earlier frame hlong => send_of_lt hlong earlier,
    (framing.admitted frames).flatMap Block.encode, by rw [offerAll_eq], ?_⟩
  intro chunks hchunks
  have hfits : ∀ frame ∈ framing.admitted frames,
      frame.length ≤ framing.maxFrameSize.toNat := by
    intro frame hframe
    simpa using (List.mem_filter.mp hframe).2
  rw [feedAll_eq, hchunks]
  exact drain_of_carries hroom (carries_flatMap_encode hfits)

/-- Two frames at the maximum and an empty one get through, one beyond the maximum does not, and a
cut inside a frame does no harm. -/
theorem offered_frames_arrive_at_maximum :
    (⟨2⟩ : Framing).maxFrameSize.toNat ≤ 2 ^ 64 - 1 - 10 ∧
    (Buffers.offerAll ⟨2⟩ {} [[0xAA, 0xBB], [0x01, 0x02, 0x03], [], [0xCC, 0xDD]]).1 =
      [.ok (), .error (.oversizedFrame 3), .ok (), .ok ()] ∧
    feedAll ⟨2⟩ [[0x02, 0xAA], [0xBB, 0x00], [0x02, 0xCC, 0xDD]] =
      ⟨[[0xAA, 0xBB], [], [0xCC, 0xDD]], .more, []⟩ := by
  have hroom : (⟨2⟩ : Framing).maxFrameSize.toNat ≤ 2 ^ 64 - 1 - 10 := by decide
  have hwritten : (Buffers.offerAll ⟨2⟩ {} [[0xAA, 0xBB], [0x01, 0x02, 0x03], [], [0xCC, 0xDD]]).2 =
      ⟨[], [0x02, 0xAA, 0xBB, 0x00, 0x02, 0xCC, 0xDD]⟩ := by decide +kernel
  obtain ⟨hanswers, -, stream, houtput, harrive⟩ := offered_frames_arrive ⟨2⟩ hroom {}
    [[0xAA, 0xBB], [0x01, 0x02, 0x03], [], [0xCC, 0xDD]]
  have hstream : [0x02, 0xAA, 0xBB, 0x00, 0x02, 0xCC, 0xDD] = stream :=
    congrArg Buffers.output (hwritten.symm.trans houtput)
  exact ⟨hroom, hanswers, harrive [[0x02, 0xAA], [0xBB, 0x00], [0x02, 0xCC, 0xDD]] hstream⟩

end GatewayLogin.Framing
