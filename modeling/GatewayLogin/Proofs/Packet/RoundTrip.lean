/-
Packets there and back.

A packet is written as its fields that are not at their default (`Packet.encode_sequence`), and
these stand for the packet again, but for empty data, which is read as none
(`Packet.ofFields_fields`).  So packets are written alike exactly if they differ in nothing else.
Main statement: `Packet.encode_lossless`.
-/
import GatewayLogin.Proofs.Packet.Fields
import GatewayLogin.Proofs.Text.Utf8

namespace GatewayLogin

namespace Field

/-- The field under a tag, if it has a payload. -/
def optional (tag : Tag) (payload? : Option Payload) : List Field :=
  payload?.toList.map (Field.mk tag.fieldNumber)

theorem last?_append (tag : Tag) (before after : List Field) :
    last? tag (before ++ after) = (last? tag after).or (last? tag before) := by
  simp only [last?, List.filter_append, List.getLast?_append]
  cases (after.filter fun field => field.tag = tag).getLast? <;> simp

theorem mem_of_last? {tag : Tag} {fields : List Field} {payload : Payload}
    (h : last? tag fields = some payload) : ∃ field ∈ fields, field.payload = payload := by
  obtain ⟨field, hlast, hpayload⟩ := Option.map_eq_some_iff.mp h
  exact ⟨field, (List.mem_filter.mp (List.mem_of_getLast? hlast)).1, hpayload⟩

theorem last?_optional (tag other : Tag) {payload? : Option Payload}
    (htype : ∀ payload ∈ payload?, payload.wireType = other.wireType) :
    last? tag (optional other payload?) = if other = tag then payload? else none := by
  cases payload? with
  | none => simp [optional, last?]
  | some payload =>
      have hother : (Field.mk other.fieldNumber payload).tag = other := by
        rw [Field.tag, htype payload rfl]
      by_cases htag : other = tag
      · simp [optional, last?, hother, ← htag]
      · simp [optional, last?, hother, htag]

end Field

namespace Packet

/-- The lengths of the message and the data are words, as those of all that is held in memory. -/
structure Sized (packet : Packet) : Prop where
  message : (Text.utf8 packet.message).length < 2 ^ 64
  data : (packet.data.getD []).length < 2 ^ 64

/-- The packet with no data in the place of empty data. -/
def normal (packet : Packet) : Packet :=
  { packet with data := packet.data.filter fun bytes => !bytes.isEmpty }

/-- What a number is written as: nothing for zero. -/
def wordPayload? (word : UInt64) : Option Payload :=
  if word = 0 then none else some (.varint word)

/-- What a byte string is written as: nothing for an empty one. -/
def bytesPayload? (bytes : Bytes) : Option Payload :=
  if bytes.isEmpty then none else some (.block bytes)

/-- The fields that a packet is written as. -/
def fields (packet : Packet) : List Field :=
  Field.optional commandTag (wordPayload? packet.command.toUInt64)
    ++ Field.optional requestIdTag (wordPayload? packet.requestId)
    ++ Field.optional codeTag (wordPayload? (codeWord packet.code))
    ++ Field.optional messageTag (bytesPayload? (Text.utf8 packet.message))
    ++ Field.optional dataTag (bytesPayload? (packet.data.getD []))

theorem varintField_sequence {tag : Tag} (hadmitted : tag.Admitted)
    (htype : tag.wireType = .varint) (word : UInt64) :
    Field.Sequence (Field.optional tag (wordPayload? word)) (varintField tag word) := by
  obtain ⟨number, _⟩ := tag
  subst htype
  simp only [wordPayload?, varintField]
  split
  · exact .nil
  · exact .single (.intro hadmitted (Varint.encode_form _) (.varint (Varint.encode_form word)))

theorem blockField_sequence {tag : Tag} (hadmitted : tag.Admitted)
    (htype : tag.wireType = .lengthDelimited) {bytes : Bytes} (hlength : bytes.length < 2 ^ 64) :
    Field.Sequence (Field.optional tag (bytesPayload? bytes)) (blockField tag bytes) := by
  obtain ⟨number, _⟩ := tag
  subst htype
  simp only [bytesPayload?, blockField]
  split
  · exact .nil
  · exact .single (.intro hadmitted (Varint.encode_form _) (Block.encode_written hlength))

theorem tags_admitted :
    commandTag.Admitted ∧ requestIdTag.Admitted ∧ codeTag.Admitted ∧ messageTag.Admitted ∧
      dataTag.Admitted := by
  simp only [Tag.Admitted]
  decide

/-- A packet is written as the sequence of its fields. -/
theorem encode_sequence {packet : Packet} (h : packet.Sized) :
    Field.Sequence packet.fields packet.encode := by
  obtain ⟨hcommand, hrequestId, hcode, hmessage, hdata⟩ := tags_admitted
  exact ((((varintField_sequence hcommand rfl packet.command.toUInt64).append
    (varintField_sequence hrequestId rfl packet.requestId)).append
    (varintField_sequence hcode rfl (codeWord packet.code))).append
    (blockField_sequence hmessage rfl h.message)).append
    (blockField_sequence hdata rfl h.data)

theorem wireType_of_mem_wordPayload? {word : UInt64} :
    ∀ payload ∈ wordPayload? word, payload.wireType = .varint := by
  intro payload h
  by_cases hword : word = 0
  · simp [wordPayload?, hword] at h
  · obtain rfl : Payload.varint word = payload := by simpa [wordPayload?, hword] using h
    rfl

theorem wireType_of_mem_bytesPayload? {bytes : Bytes} :
    ∀ payload ∈ bytesPayload? bytes, payload.wireType = .lengthDelimited := by
  intro payload h
  by_cases hbytes : bytes = []
  · simp [bytesPayload?, hbytes] at h
  · obtain rfl : Payload.block bytes = payload := by simpa [bytesPayload?, hbytes] using h
    rfl

/-- Under each tag stands what the packet has there. -/
theorem last?_fields (packet : Packet) :
    Field.last? commandTag packet.fields = wordPayload? packet.command.toUInt64 ∧
      Field.last? requestIdTag packet.fields = wordPayload? packet.requestId ∧
      Field.last? codeTag packet.fields = wordPayload? (codeWord packet.code) ∧
      Field.last? messageTag packet.fields = bytesPayload? (Text.utf8 packet.message) ∧
      Field.last? dataTag packet.fields = bytesPayload? (packet.data.getD []) := by
  simp only [fields, Field.last?_append,
    Field.last?_optional _ commandTag wireType_of_mem_wordPayload?,
    Field.last?_optional _ requestIdTag wireType_of_mem_wordPayload?,
    Field.last?_optional _ codeTag wireType_of_mem_wordPayload?,
    Field.last?_optional _ messageTag wireType_of_mem_bytesPayload?,
    Field.last?_optional _ dataTag wireType_of_mem_bytesPayload?]
  simp [commandTag, requestIdTag, codeTag, messageTag, dataTag]

theorem getD_wordPayload? {α : Type} (f : UInt64 → α) (word : UInt64) :
    ((wordPayload? word).map fun payload => f payload.word).getD (f 0) = f word := by
  by_cases hword : word = 0 <;> simp [wordPayload?, hword, Payload.word]

theorem getD_bytesPayload? {α : Type} (f : Bytes → α) (bytes : Bytes) :
    ((bytesPayload? bytes).map fun payload => f payload.bytes).getD (f []) = f bytes := by
  by_cases hbytes : bytes = [] <;> simp [bytesPayload?, hbytes, Payload.bytes]

theorem map_bytesPayload? (data : Option Bytes) :
    ((bytesPayload? (data.getD [])).map fun payload => payload.bytes) =
      data.filter fun bytes => !bytes.isEmpty := by
  cases data with
  | none => rfl
  | some bytes =>
      by_cases hbytes : bytes = [] <;> simp [bytesPayload?, hbytes, Payload.bytes, Option.filter]

/-- The low half of a code that was written with its sign through all bits is the code. -/
theorem codeOfWord_codeWord (code : Int32) : codeOfWord (codeWord code) = code := by
  apply Int32.toBitVec_inj.mp
  change BitVec.setWidth 32 (BitVec.signExtend 64 code.toBitVec) = code.toBitVec
  ext i hi
  have hlow : i < 64 := by omega
  rw [BitVec.getElem_setWidth, BitVec.getLsbD_signExtend]
  simp [hi, hlow]

theorem ofFields_fields (packet : Packet) : ofFields packet.fields = packet.normal := by
  obtain ⟨hcommand, hrequestId, hcode, hmessage, hdata⟩ := last?_fields packet
  have hcommandValue := getD_wordPayload? UInt64.toUInt32 packet.command.toUInt64
  have hcodeValue := getD_wordPayload? codeOfWord (codeWord packet.code)
  have hmessageValue := getD_bytesPayload? Text.lossy (Text.utf8 packet.message)
  rw [UInt32.toUInt32_toUInt64] at hcommandValue
  rw [codeOfWord_codeWord] at hcodeValue
  rw [Text.lossy_utf8] at hmessageValue
  rw [ofFields, hcommand, hrequestId, hcode, hmessage, hdata, map_bytesPayload?]
  rw [Packet.mk.injEq]
  exact ⟨hcommandValue, getD_wordPayload? id packet.requestId, hcodeValue, hmessageValue, rfl⟩

theorem decode_encode {packet : Packet} (h : packet.Sized) :
    decode packet.encode = .ok packet.normal := by
  rw [decode_sequence (encode_sequence h), ofFields_fields]

theorem encode_normal (packet : Packet) : packet.normal.encode = packet.encode := by
  have hdata : packet.normal.data.getD [] = packet.data.getD [] := by
    cases hpacket : packet.data with
    | none => simp [normal, hpacket]
    | some bytes => by_cases hbytes : bytes = [] <;> simp [normal, hpacket, hbytes, Option.filter]
  rw [encode, encode, hdata]
  rfl

/-- Data that was read is no longer than its length could say. -/
theorem data_length_lt_of_decode {frame : Frame} {packet : Packet}
    (h : decode frame = .ok packet) : (packet.data.getD []).length < 2 ^ 64 := by
  obtain ⟨fields, hfields, rfl⟩ := decode_eq_ok_iff.mp h
  cases hlast : Field.last? dataTag fields with
  | none => simp [ofFields, hlast]
  | some payload =>
      obtain ⟨field, hfield, rfl⟩ := Field.mem_of_last? hlast
      obtain ⟨_, _, _, hbody⟩ := hfields.written_of_mem hfield
      simpa [ofFields, hlast] using hbody.bytes_length_lt

/-- A packet that is written is read back as it was, with empty data as none.  What was read from
any frame can therefore be written and read over and over without change, and two packets are
written alike exactly if they are equal up to empty data.  Lengths are taken to be words. -/
theorem encode_lossless :
    (∀ packet : Packet, packet.Sized → decode packet.encode = .ok packet.normal) ∧
    (∀ frame packet, decode frame = .ok packet → (Text.utf8 packet.message).length < 2 ^ 64 →
      decode packet.encode = .ok packet.normal ∧ packet.normal.encode = packet.encode) ∧
    ∀ first second : Packet, first.Sized → second.Sized →
      (first.encode = second.encode ↔ first.normal = second.normal) := by
  refine ⟨fun packet => decode_encode, ?_, ?_⟩
  · intro frame packet hdecode hmessage
    exact ⟨decode_encode ⟨hmessage, data_length_lt_of_decode hdecode⟩, encode_normal packet⟩
  · intro first second hfirst hsecond
    constructor
    · intro hsame
      have hread := decode_encode hfirst
      rw [hsame, decode_encode hsecond] at hread
      exact (Except.ok.inj hread).symm
    · intro hsame
      rw [← encode_normal first, hsame, encode_normal]

/-- A packet with a negative code, and a frame whose message is unreadable and whose data are
empty. -/
theorem encode_lossless_negative_code :
    (Sized ⟨7, 9, -1, "é", some []⟩ ∧
      decode (encode ⟨7, 9, -1, "é", some []⟩) = .ok ⟨7, 9, -1, "é", none⟩) ∧
    (decode [0x22, 0x01, 0xFF, 0x2A, 0x00] = .ok { message := "\ufffd", data := some [] } ∧
      decode (encode { message := "\ufffd", data := some [] }) = .ok { message := "\ufffd" }) ∧
    (Sized {} ∧ Sized { data := some [] } ∧ encode {} = encode { data := some [] }) := by
  have hsized : Sized ⟨7, 9, -1, "é", some []⟩ := ⟨by decide +kernel, by decide⟩
  have hread : decode [0x22, 0x01, 0xFF, 0x2A, 0x00] =
      .ok { message := "\ufffd", data := some [] } := by decide +kernel
  have hbare : Sized {} := ⟨by decide +kernel, by decide⟩
  have hempty : Sized { data := some [] } := ⟨by decide +kernel, by decide⟩
  obtain ⟨hlossless, hagain, halike⟩ := encode_lossless
  exact ⟨⟨hsized, hlossless _ hsized⟩, ⟨hread, (hagain _ _ hread (by decide +kernel)).1⟩,
    hbare, hempty, (halike _ _ hbare hempty).mpr rfl⟩

end Packet

end GatewayLogin
