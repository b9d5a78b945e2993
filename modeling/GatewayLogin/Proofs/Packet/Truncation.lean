/-
Packets that are cut off.

No frame that is cut off within a field is taken for another packet: it is at fault, and the fault
tells what the cut went through.  Main statement: `Packet.truncation_told`.
-/
import GatewayLogin.Proofs.Packet.Fields
import GatewayLogin.Proofs.Wire.Cut

namespace GatewayLogin.Packet

/-- Of a frame that can be read, let some bytes at the end be missing.  What is left can be read
exactly if the cut falls between two fields, as the packet that the fields before it stand for.
Otherwise the cut falls within a field, and the fault is that of the varint, or of the body, that it
goes through or stands before; of a body fewer bytes are left than it has. -/
theorem truncation_told (front rest : Frame) (packet : Packet)
    (hread : decode (front ++ rest) = .ok packet) :
    ∃ fields, Field.Sequence fields (front ++ rest) ∧ ofFields fields = packet ∧
      (∀ part, decode front = .ok part ↔
        ∃ before after, fields = before ++ after ∧ Field.Sequence before front ∧
          Field.Sequence after rest ∧ ofFields before = part) ∧
      (∀ fault, decode front = .error fault ↔
        ∃ before field after place, fields = before ++ field :: after ∧
          Field.CutWithin before field after front rest place ∧ place.fault = fault) ∧
      ∀ needed available, decode front = .error (.truncated needed available) →
        available < needed := by
  obtain ⟨fields, hfields, hpacket⟩ := decode_eq_ok_iff.mp hread
  refine ⟨fields, hfields, hpacket, ?_, ?_, ?_⟩
  · intro part
    rw [decode_eq, Except.map_eq_ok_iff]
    constructor
    · rintro ⟨before, hbefore, hpart⟩
      obtain ⟨after, heq, hfront, hafter⟩ := hfields.readAll_front.mp hbefore
      exact ⟨before, after, heq, hfront, hafter, hpart⟩
    · rintro ⟨before, after, heq, hfront, hafter, hpart⟩
      exact ⟨before, hfields.readAll_front.mpr ⟨after, heq, hfront, hafter⟩, hpart⟩
  · intro fault
    rw [decode_eq, Except.map_eq_error_iff]
    exact hfields.readAll_cut
  · intro needed available hfault
    rw [decode_eq, Except.map_eq_error_iff] at hfault
    obtain ⟨before, field, after, place, -, hcut, hplace⟩ := hfields.readAll_cut.mp hfault
    cases place with
    | varint => cases hplace
    | body =>
        cases hplace
        exact hcut.available_lt

/-- A frame of a code in a longer form than needed and of a message, cut off within the code,
between the two, and within the message. -/
theorem truncation_of_coded_message :
    decode [0x18, 0x85, 0x80, 0x00, 0x22, 0x03, 0x61, 0x62, 0x63] =
        .ok { code := 5, message := "abc" } ∧
      decode [0x18, 0x85] = .error .malformedVarint ∧
      decode [0x18, 0x85, 0x80, 0x00] = .ok { code := 5 } ∧
      decode [0x18, 0x85, 0x80, 0x00, 0x22, 0x03, 0x61] = .error (.truncated 3 1) ∧ 1 < 3 := by
  let code : Field := ⟨3, .varint 5⟩
  let message : Field := ⟨4, .block [0x61, 0x62, 0x63]⟩
  have hread : decode [0x18, 0x85, 0x80, 0x00, 0x22, 0x03, 0x61, 0x62, 0x63] =
      .ok { code := 5, message := "abc" } := by decide +kernel
  have hcode : Field.Sequence [code] [0x18, 0x85, 0x80, 0x00] := Field.readAll_sound (by cbv)
  have hmessage : Field.Sequence [message] [0x22, 0x03, 0x61, 0x62, 0x63] :=
    Field.readAll_sound (by cbv)
  have hfields := hcode.append hmessage
  have hadmitted : code.tag.Admitted ∧ message.tag.Admitted := by
    simp only [Tag.Admitted]
    decide
  have hword : Varint.Form ([0x85] ++ [0x80, 0x00]) 5 :=
    ⟨.more (by decide) (.more (by decide) (.last (by decide))), by decide⟩
  have hcodeCut : code.Cut ([0x18] ++ [0x85]) [0x80, 0x00] .varint :=
    .payload hadmitted.1 ⟨.last (by decide), by decide⟩ (.varint hword (by simp))
  have hlength : Varint.Form [0x03] 3 := ⟨.last (by decide), by decide⟩
  have hbody : message.payload.Cut ([0x03] ++ [0x61]) [0x62, 0x63] (.body 3 1) :=
    @Payload.Cut.block 3 [0x03] [0x61] [0x62, 0x63] hlength rfl (by simp)
  have hmessageCut : message.Cut ([0x22] ++ ([0x03] ++ [0x61])) [0x62, 0x63] (.body 3 1) :=
    .payload hadmitted.2 ⟨.last (by decide), by decide⟩ hbody
  obtain ⟨fields, hsequence, -, -, hfaults, -⟩ :=
    truncation_told [0x18, 0x85] [0x80, 0x00, 0x22, 0x03, 0x61, 0x62, 0x63] _ hread
  obtain rfl := hsequence.unique hfields
  obtain ⟨fields, hsequence, -, hparts, -⟩ :=
    truncation_told [0x18, 0x85, 0x80, 0x00] [0x22, 0x03, 0x61, 0x62, 0x63] _ hread
  obtain rfl := hsequence.unique hfields
  obtain ⟨fields, hsequence, -, -, hbodies, hless⟩ :=
    truncation_told [0x18, 0x85, 0x80, 0x00, 0x22, 0x03, 0x61] [0x62, 0x63] _ hread
  obtain rfl := hsequence.unique hfields
  have htruncated := (hbodies (.truncated 3 1)).mpr
    ⟨[code], message, [], _, rfl, .intro hcode hmessageCut .nil, rfl⟩
  refine ⟨hread, ?_, ?_, htruncated, hless _ _ htruncated⟩
  · exact (hfaults _).mpr ⟨[], code, [message], _, rfl, .intro .nil hcodeCut hmessage, rfl⟩
  · exact (hparts _).mpr ⟨[code], [message], rfl, hcode, hmessage, by decide +kernel⟩

end GatewayLogin.Packet
