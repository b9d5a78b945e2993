/-
Compatibility: what readers of different messages make of the same bytes.

A message is read field by field, and a field that is not known is passed over like one that is
taken up.  So a reader can ignore what newer senders add (`messages_forward_compatible`), and
readers that know different fields accept the same bytes (`decoders_accept_alike`).
-/
import GatewayLogin.Proofs.Packet.Fields
import GatewayLogin.Proofs.SignInRequest.RoundTrip

namespace GatewayLogin

variable {α : Type}

/-- A decoder that knows some tags looks at nothing else.  Fields that it does not know make no
difference wherever they stand, not even to the fault that ends the reading, and neither does the
order of neighbours with different numbers. -/
structure Lenient (decode : Bytes → Except Fault α) (known : List Tag) : Prop where
  inserted : ∀ (front between rest : Bytes) (others : List Field),
    (∃ message, decode front = .ok message) → Field.Sequence others between →
    (∀ field ∈ others, field.tag ∉ known) →
    decode (front ++ between ++ rest) = decode (front ++ rest)
  exchanged : ∀ (front one other rest : Bytes) (first second : Field),
    (∃ message, decode front = .ok message) → first.Written one → second.Written other →
    first.number ≠ second.number →
    decode (front ++ one ++ other ++ rest) = decode (front ++ other ++ one ++ rest)

namespace Schema

variable {schema : Schema α} {update : α → Field → α} {known : List Tag}

/-- What can be read is a sequence of fields. -/
theorem Folds.sequence (h : schema.Folds update) {empty message : α} {bytes : Bytes}
    (hread : schema.read empty bytes = .ok message) : ∃ fields, Field.Sequence fields bytes := by
  rw [h.read] at hread
  obtain ⟨fields, hfields, -⟩ := Except.map_eq_ok_iff.mp hread
  exact ⟨fields, Field.readAll_sound hfields⟩

theorem Folds.lenient (h : schema.Folds update)
    (hunknown : ∀ field : Field, field.tag ∉ known → ∀ message, update message field = message)
    (hcomm : ∀ first second : Field, first.tag ≠ second.tag → ∀ message,
      update (update message first) second = update (update message second) first) (empty : α) :
    Lenient (schema.read empty) known := by
  constructor
  · rintro front between rest others ⟨message, hread⟩ hbetween hothers
    obtain ⟨fields, hfront⟩ := h.sequence hread
    apply h.read_insert hfront hbetween
    intro field hfield
    exact hunknown field (hothers field hfield)
  · rintro front one other rest first second ⟨message, hread⟩ hfirst hsecond hnumber
    obtain ⟨fields, hfront⟩ := h.sequence hread
    apply h.read_exchange hfront hfirst hsecond
    apply hcomm
    intro htag
    exact hnumber (congrArg Tag.fieldNumber htag)

end Schema

/-- Both kinds of messages can be read whatever fields a later sender adds, and in whatever order
the fields stand that are different. -/
theorem messages_forward_compatible :
    Lenient Packet.decode Packet.tags ∧ Lenient SignInRequest.decode SignInRequest.tags := by
  constructor
  · exact Packet.schema_folds.lenient (fun _ => Packet.update_of_not_mem)
      (fun _ _ => Packet.update_comm) {}
  · exact SignInRequest.schema_folds.lenient (fun _ => SignInRequest.update_of_not_mem)
      (fun _ _ => SignInRequest.update_comm) {}

/-- Before a block that is cut off stand a code under another layout and a number that nobody knows;
for a request, a token under another layout.  Before a wrong tag two fields change places, one of
them in a longer form. -/
theorem unknown_fields_before_fault :
    (Packet.decode ([0x18, 0x05] ++ [0x1A, 0x01, 0xFF, 0x9D, 0x06, 1, 2, 3, 4]
          ++ [0x22, 0x09, 0x4F]) =
        Packet.decode ([0x18, 0x05] ++ [0x22, 0x09, 0x4F]) ∧
      Packet.decode ([0x18, 0x05] ++ [0x22, 0x09, 0x4F]) = .error (.truncated 9 1)) ∧
    SignInRequest.decode ([0x08, 0x37] ++ [0x18, 0x05] ++ [0x1A, 0x09, 0x4F]) =
      SignInRequest.decode ([0x08, 0x37] ++ [0x1A, 0x09, 0x4F]) ∧
    Packet.decode ([0x18, 0x05] ++ [0x88, 0x00, 0x87, 0x00] ++ [0x10, 0x02] ++ [0x0B]) =
      Packet.decode ([0x18, 0x05] ++ [0x10, 0x02] ++ [0x88, 0x00, 0x87, 0x00] ++ [0x0B]) := by
  obtain ⟨hpacket, hrequest⟩ := messages_forward_compatible
  have hfront : Packet.decode [0x18, 0x05] = .ok { code := 5 } := by decide +kernel
  have hothers : Field.readAll [0x1A, 0x01, 0xFF, 0x9D, 0x06, 1, 2, 3, 4] =
      .ok [⟨3, .block [0xFF]⟩, ⟨99, .fixed32 [1, 2, 3, 4]⟩] := by cbv
  have hdeviceId : SignInRequest.decode [0x08, 0x37] = .ok { deviceId := 0x37 } := by
    decide +kernel
  have hother : Field.readAll [0x18, 0x05] = .ok [⟨3, .varint 5⟩] := by cbv
  have hcommand : Field.Written ⟨1, .varint 7⟩ [0x88, 0x00, 0x87, 0x00] :=
    Field.written_of_read (by cbv)
  have hrequestId : Field.Written ⟨2, .varint 2⟩ [0x10, 0x02] := Field.written_of_read (by cbv)
  refine ⟨⟨?_, by decide +kernel⟩, ?_, ?_⟩
  · exact hpacket.inserted _ _ _ _ ⟨_, hfront⟩ (Field.readAll_sound hothers) (by decide)
  · exact hrequest.inserted _ _ _ _ ⟨_, hdeviceId⟩ (Field.readAll_sound hother) (by decide)
  · exact hpacket.exchanged _ _ _ _ _ _ ⟨_, hfront⟩ hcommand hrequestId (by decide)

/-- Packets and requests are read from the same bytes, and from other bytes reading either fails
with the same fault, for it makes no difference to what is read next whether a field is taken up or
passed over. -/
theorem decoders_accept_alike :
    (∀ bytes, (∃ request, SignInRequest.decode bytes = .ok request) ↔
      ∃ packet, Packet.decode bytes = .ok packet) ∧
    (∀ bytes fault, SignInRequest.decode bytes = .error fault ↔
      Packet.decode bytes = .error fault) ∧
    (∀ tag packet, Reader.map (fun _ => ()) (Packet.absorb tag packet) = tag.wireType.skip) ∧
    ∀ tag request, Reader.map (fun _ => ()) (SignInRequest.absorb tag request) =
      tag.wireType.skip := by
  have halike (bytes : Bytes) :
      (SignInRequest.decode bytes).map (fun _ => ()) = (Packet.decode bytes).map fun _ => () :=
    SignInRequest.schema_folds.read_alike Packet.schema_folds {} {} bytes
  refine ⟨?_, ?_, Packet.schema_folds.absorb_skips, SignInRequest.schema_folds.absorb_skips⟩
  · intro bytes
    rw [Except.exists_eq_ok_iff, Except.exists_eq_ok_iff, halike bytes]
  · intro bytes fault
    rw [← Except.map_eq_error_iff (f := fun _ => ()), halike bytes, Except.map_eq_error_iff]

end GatewayLogin
