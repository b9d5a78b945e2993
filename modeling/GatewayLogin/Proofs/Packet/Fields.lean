/-
Packets as their fields.

A frame that is a sequence of fields stands for the packet in which every value comes from the last
field under its tag, as `Packet.Reflects` spells out.  Every other frame is unreadable.  Main
statement: `Packet.decode_iff_sequence`.
-/
import Mathlib.Algebra.Group.Nat.Defs
import Mathlib.Data.List.Induction
import Mathlib.Tactic.SplitIfs
import GatewayLogin.Packet
import GatewayLogin.Proofs.Text.Lossy
import GatewayLogin.Proofs.Wire.Message

namespace GatewayLogin

/-- The payload of the last field under a tag. -/
def Field.last? (tag : Tag) (fields : List Field) : Option Payload :=
  ((fields.filter fun field => field.tag = tag).getLast?).map Field.payload

theorem Field.last?_concat (tag : Tag) (fields : List Field) (field : Field) :
    last? tag (fields ++ [field]) =
      if field.tag = tag then some field.payload else last? tag fields := by
  by_cases htag : field.tag = tag <;> simp [last?, htag]

/-- What stands under the tag of a varint is a word. -/
theorem Field.eq_varint_of_last? {tag : Tag} (htype : tag.wireType = .varint) {fields : List Field}
    {payload : Payload} (h : last? tag fields = some payload) : payload = .varint payload.word := by
  obtain ⟨field, hlast, rfl⟩ := Option.map_eq_some_iff.mp h
  have htag : field.tag = tag := by
    simpa using (List.mem_filter.mp (List.mem_of_getLast? hlast)).2
  have hvarint : field.payload.wireType = .varint := (congrArg Tag.wireType htag).trans htype
  generalize field.payload = payload at hvarint ⊢
  cases payload with
  | varint word => rfl
  | fixed64 | block | fixed32 => cases hvarint

namespace Packet

/-- The packet that some fields stand for. -/
def ofFields (fields : List Field) : Packet where
  command := ((Field.last? commandTag fields).map fun p => p.word.toUInt32).getD 0
  requestId := ((Field.last? requestIdTag fields).map fun p => p.word).getD 0
  code := ((Field.last? codeTag fields).map fun p => codeOfWord p.word).getD 0
  message := ((Field.last? messageTag fields).map fun p => Text.lossy p.bytes).getD ""
  data := (Field.last? dataTag fields).map fun p => p.bytes

def update (packet : Packet) (field : Field) : Packet :=
  if field.tag = commandTag then { packet with command := field.payload.word.toUInt32 }
  else if field.tag = requestIdTag then { packet with requestId := field.payload.word }
  else if field.tag = codeTag then { packet with code := codeOfWord field.payload.word }
  else if field.tag = messageTag then { packet with message := Text.lossy field.payload.bytes }
  else if field.tag = dataTag then { packet with data := some field.payload.bytes }
  else packet

/-- The tags under which a packet takes something up. -/
def tags : List Tag := [commandTag, requestIdTag, codeTag, messageTag, dataTag]

theorem update_of_not_mem {field : Field} (h : field.tag ∉ tags) (packet : Packet) :
    packet.update field = packet := by
  simp only [tags, List.mem_cons, List.not_mem_nil, or_false, not_or] at h
  obtain ⟨hcommand, hrequestId, hcode, hmessage, hdata⟩ := h
  simp only [update, if_neg hcommand, if_neg hrequestId, if_neg hcode, if_neg hmessage,
    if_neg hdata]

/-- Fields under different tags change different parts of a packet. -/
theorem update_comm {first second : Field} (h : first.tag ≠ second.tag) (packet : Packet) :
    (packet.update first).update second = (packet.update second).update first := by
  by_cases hfirst : first.tag ∈ tags
  · by_cases hsecond : second.tag ∈ tags
    · simp only [tags, List.mem_cons, List.not_mem_nil, or_false] at hfirst hsecond
      rcases hfirst with hfirst | hfirst | hfirst | hfirst | hfirst <;>
        rcases hsecond with hsecond | hsecond | hsecond | hsecond | hsecond
      all_goals first
        | exact absurd (hfirst.trans hsecond.symm) h
        | simp only [update, hfirst, hsecond]
          rfl
    · rw [update_of_not_mem hsecond, update_of_not_mem hsecond]
  · rw [update_of_not_mem hfirst, update_of_not_mem hfirst]

theorem schema_folds : schema.Folds update := by
  intro tag packet
  simp only [schema, absorb]
  split_ifs with hcommand hrequestId hcode hmessage hdata
  · rw [Field.map_varint (congrArg Tag.wireType hcommand)]
    refine Field.map_readAfter_congr fun field htag => ?_
    simp only [update, htag, if_pos hcommand]
  · rw [Field.map_varint (congrArg Tag.wireType hrequestId)]
    refine Field.map_readAfter_congr fun field htag => ?_
    simp only [update, htag, if_neg hcommand, if_pos hrequestId]
  · rw [Field.map_varint (congrArg Tag.wireType hcode)]
    refine Field.map_readAfter_congr fun field htag => ?_
    simp only [update, htag, if_neg hcommand, if_neg hrequestId, if_pos hcode]
  · rw [Block.readText, Reader.map_map, Field.map_block (congrArg Tag.wireType hmessage)]
    refine Field.map_readAfter_congr fun field htag => ?_
    simp only [update, htag, if_neg hcommand, if_neg hrequestId, if_neg hcode, if_pos hmessage,
      Function.comp_apply]
  · rw [Field.map_block (congrArg Tag.wireType hdata)]
    refine Field.map_readAfter_congr fun field htag => ?_
    simp only [update, htag, if_neg hcommand, if_neg hrequestId, if_neg hcode, if_neg hmessage,
      if_pos hdata]
  · rw [Field.map_skip]
    refine Field.map_readAfter_congr fun field htag => ?_
    simp only [update, htag, if_neg hcommand, if_neg hrequestId, if_neg hcode, if_neg hmessage,
      if_neg hdata]

theorem ofFields_concat (fields : List Field) (field : Field) :
    ofFields (fields ++ [field]) = (ofFields fields).update field := by
  simp only [ofFields, Field.last?_concat, update]
  split_ifs <;> simp_all [commandTag, requestIdTag, codeTag, messageTag, dataTag]

theorem foldl_update (fields : List Field) : fields.foldl update {} = ofFields fields := by
  induction fields using List.reverseRecOn with
  | nil => rfl
  | append_singleton before field ih =>
      rw [List.foldl_append, ih, List.foldl_cons, List.foldl_nil, ofFields_concat]

theorem decode_eq (frame : Frame) : decode frame = (Field.readAll frame).map ofFields := by
  rw [decode, schema_folds.read]
  simp only [foldl_update]

theorem decode_sequence {fields : List Field} {frame : Frame} (h : Field.Sequence fields frame) :
    decode frame = .ok (ofFields fields) := by
  rw [decode_eq, Field.readAll_eq_ok_iff.mpr h]
  rfl

theorem decode_eq_ok_iff {frame : Frame} {packet : Packet} :
    decode frame = .ok packet ↔
      ∃ fields, Field.Sequence fields frame ∧ ofFields fields = packet := by
  rw [decode_eq, Except.map_eq_ok_iff]
  simp only [Field.readAll_eq_ok_iff]

theorem decode_fault {frame : Frame} {fault : Fault} (h : decode frame = .error fault) :
    fault.isCodecFault = true := by
  rw [decode_eq, Except.map_eq_error_iff] at h
  exact Field.readAll_fault h

/-- A frame is received as what its fields stand for, or as the fixed packet if it has none. -/
theorem receive_cases (frame : Frame) :
    (∃ fields, Field.Sequence fields frame ∧ receive frame = ofFields fields) ∨
      ((¬ ∃ fields, Field.Sequence fields frame) ∧ receive frame = parseError) := by
  by_cases hfields : ∃ fields, Field.Sequence fields frame
  · obtain ⟨fields, hfields⟩ := hfields
    exact .inl ⟨fields, hfields, by rw [receive, decode_sequence hfields]⟩
  · refine .inr ⟨hfields, ?_⟩
    cases hdecode : decode frame with
    | ok packet =>
        obtain ⟨fields, hsequence, -⟩ := decode_eq_ok_iff.mp hdecode
        exact absurd ⟨fields, hsequence⟩ hfields
    | error fault => rw [receive, hdecode]

theorem isSuccess_iff {packet : Packet} : packet.isSuccess = true ↔ packet.code = 0 :=
  beq_iff_eq

/-- A code is the number that the low half of its word spells with a sign. -/
theorem codeOfWord_toInt (word : UInt64) :
    (codeOfWord word).toInt = Int.bmod word.toNat (2 ^ 32) := by
  have hlow : (codeOfWord word).toInt = Int.bmod word.toUInt32.toNat (2 ^ 32) := by
    rw [codeOfWord, Int32.toInt, UInt32.toBitVec_toInt32, BitVec.toInt_eq_toNat_bmod,
      UInt32.toNat_toBitVec]
  rw [hlow, UInt64.toNat_toUInt32, Int.natCast_emod]
  exact Int.emod_bmod word.toNat (2 ^ 32)

theorem codeOfWord_eq_zero_iff {word : UInt64} :
    codeOfWord word = 0 ↔ word.toNat % 2 ^ 32 = 0 := by
  have hzero : (0 : Int32).toInt = 0 := by decide
  rw [← Int32.toInt_inj, codeOfWord_toInt, hzero, ← Int.dvd_iff_bmod_eq_zero,
    Int.natCast_dvd_natCast, Nat.dvd_iff_mod_eq_zero]

/-- The code of a packet is read from the last word under its tag. -/
theorem ofFields_code_cases (fields : List Field) :
    (Field.last? codeTag fields = none ∧ (ofFields fields).code = 0) ∨
      ∃ word, Field.last? codeTag fields = some (.varint word) ∧
        (ofFields fields).code = codeOfWord word := by
  cases hlast : Field.last? codeTag fields with
  | none => exact .inl ⟨rfl, by simp only [ofFields, hlast]; rfl⟩
  | some payload =>
      refine .inr ⟨payload.word, congrArg some (Field.eq_varint_of_last? rfl hlast), ?_⟩
      simp only [ofFields, hlast]
      rfl

theorem ofFields_code_of_last? {fields : List Field} {word : UInt64}
    (h : Field.last? codeTag fields = some (.varint word)) :
    (ofFields fields).code = codeOfWord word := by
  rcases ofFields_code_cases fields with ⟨hnone, -⟩ | ⟨found, hfound, hcode⟩
  · cases hnone.symm.trans h
  · cases hfound.symm.trans h
    exact hcode

theorem ofFields_code_eq_zero_iff {fields : List Field} :
    (ofFields fields).code = 0 ↔
      ∀ word, Field.last? codeTag fields = some (.varint word) → word.toNat % 2 ^ 32 = 0 := by
  constructor
  · intro hcode word hlast
    rw [ofFields_code_of_last? hlast] at hcode
    exact codeOfWord_eq_zero_iff.mp hcode
  · intro hwords
    rcases ofFields_code_cases fields with ⟨-, hcode⟩ | ⟨word, hlast, hcode⟩
    · exact hcode
    · rw [hcode]
      exact codeOfWord_eq_zero_iff.mpr (hwords word hlast)

/-- Every value of the packet is the one of the last field under its tag, or the default if there
is none.  Of a command and of a code the low 32 bits count, and those of a code are signed. -/
structure Reflects (packet : Packet) (fields : List Field) : Prop where
  command : packet.command.toNat =
    match Field.last? ⟨1, .varint⟩ fields with
    | some payload => payload.word.toNat % 2 ^ 32
    | none => 0
  requestId : packet.requestId =
    match Field.last? ⟨2, .varint⟩ fields with
    | some payload => payload.word
    | none => 0
  code : packet.code.toInt =
    match Field.last? ⟨3, .varint⟩ fields with
    | some payload => Int.bmod payload.word.toNat (2 ^ 32)
    | none => 0
  message :
    match Field.last? ⟨4, .lengthDelimited⟩ fields with
    | some payload => Text.Lossy payload.bytes packet.message.toList
    | none => packet.message = ""
  data : packet.data =
    match Field.last? ⟨5, .lengthDelimited⟩ fields with
    | some payload => some payload.bytes
    | none => none

theorem ofFields_reflects (fields : List Field) : (ofFields fields).Reflects fields where
  command := by
    rw [ofFields, commandTag]
    cases Field.last? ⟨1, .varint⟩ fields with
    | none => rfl
    | some payload => exact UInt64.toNat_toUInt32 payload.word
  requestId := by
    rw [ofFields, requestIdTag]
    cases Field.last? ⟨2, .varint⟩ fields <;> rfl
  code := by
    rw [ofFields, codeTag]
    cases Field.last? ⟨3, .varint⟩ fields with
    | none => rfl
    | some payload => exact codeOfWord_toInt payload.word
  message := by
    rw [ofFields, messageTag]
    cases Field.last? ⟨4, .lengthDelimited⟩ fields with
    | none => rfl
    | some payload => exact Text.lossy_iff.mpr rfl
  data := by
    rw [ofFields, dataTag]
    cases Field.last? ⟨5, .lengthDelimited⟩ fields <;> rfl

/-- No two packets reflect the same fields. -/
theorem Reflects.eq_ofFields {packet : Packet} {fields : List Field} (h : packet.Reflects fields) :
    packet = ofFields fields := by
  have hfields := ofFields_reflects fields
  have hcommand := UInt32.toNat_inj.mp (h.command.trans hfields.command.symm)
  have hrequestId := h.requestId.trans hfields.requestId.symm
  have hcode := Int32.toInt_inj.mp (h.code.trans hfields.code.symm)
  have hdata := h.data.trans hfields.data.symm
  have hmessage : packet.message = (ofFields fields).message := by
    have hpacket := h.message
    rw [ofFields, messageTag]
    cases hlast : Field.last? ⟨4, .lengthDelimited⟩ fields with
    | none => simpa [hlast] using hpacket
    | some payload =>
        simp only [hlast] at hpacket
        exact Text.lossy_iff.mp hpacket
  cases packet
  simp_all

theorem reflects_iff {packet : Packet} {fields : List Field} :
    packet.Reflects fields ↔ ofFields fields = packet :=
  ⟨fun h => h.eq_ofFields.symm, fun h => h ▸ ofFields_reflects fields⟩

/-- A frame can be read exactly if it is a sequence of fields, and then as the one packet that
reflects them.  A frame that cannot be read is at fault by itself, and is received as one fixed
packet with nothing of the frame in it. -/
theorem decode_iff_sequence (frame : Frame) :
    (∀ packet, decode frame = .ok packet ↔
      ∃ fields, Field.Sequence fields frame ∧ packet.Reflects fields) ∧
    (∀ fields, Field.Sequence fields frame →
      decode frame = .ok (receive frame) ∧ (receive frame).Reflects fields) ∧
    ((¬ ∃ fields, Field.Sequence fields frame) →
      receive frame = ⟨0, 0, -1, "parse error", none⟩ ∧ ∃ fault, decode frame = .error fault ∧
        (fault = .malformedVarint ∨ (∃ needed available, fault = .truncated needed available) ∨
          (∃ bits, fault = .unsupportedWireType bits) ∨ ∃ raw, fault = .invalidTag raw)) := by
  refine ⟨fun packet => ?_, ?_, ?_⟩
  · simp only [decode_eq_ok_iff, reflects_iff]
  · intro fields hfields
    have hreceive : receive frame = ofFields fields := by rw [receive, decode_sequence hfields]
    rw [hreceive]
    exact ⟨decode_sequence hfields, ofFields_reflects fields⟩
  · intro hnone
    cases hdecode : decode frame with
    | ok packet =>
        obtain ⟨fields, hfields, _⟩ := decode_eq_ok_iff.mp hdecode
        exact absurd ⟨fields, hfields⟩ hnone
    | error fault =>
        refine ⟨by rw [receive, hdecode]; rfl, fault, rfl, ?_⟩
        have hcodec := decode_fault hdecode
        cases fault <;> simp_all [Fault.isCodecFault]

/-- The low half of a code's word is read with its sign, and an unfinished character of a message as
one replacement. -/
example : decode [0x18, 0xFE, 0xFF, 0xFF, 0xFF, 0x1F, 0x22, 0x03, 0x61, 0xE2, 0x82] =
    .ok { code := -2, message := "a\ufffd" } := by
  decide +kernel

/-- A known number under another layout changes nothing, and of two commands the last counts. -/
example : decode [0x0A, 0x00, 0x08, 0x05, 0x88, 0x00, 0x87, 0x00] = .ok { command := 7 } := by
  decide +kernel

end Packet

end GatewayLogin
