/-
Fields: what a message is made of on the wire.

A field is a number and a payload.  `Field.Written` says which byte strings are forms of a field,
without mention of a reader; `Field.read` takes exactly these (`Field.read_reads`).
-/
import GatewayLogin.Proofs.Wire.Tag
import GatewayLogin.Wire.Payload

namespace GatewayLogin

/-- What a field holds. -/
inductive Payload where
  | varint (word : UInt64)
  | fixed64 (bytes : Bytes)
  | block (bytes : Bytes)
  | fixed32 (bytes : Bytes)

def Payload.wireType : Payload → WireType
  | varint _ => .varint
  | fixed64 _ => .fixed64
  | block _ => .lengthDelimited
  | fixed32 _ => .fixed32

/-- The bytes are a form of the payload. -/
inductive Payload.Written : Payload → Bytes → Prop where
  | varint {word : UInt64} {form : Bytes} (h : Varint.Form form word) : Written (varint word) form
  | fixed64 {bytes : Bytes} (h : bytes.length = 8) : Written (fixed64 bytes) bytes
  | block {length : UInt64} {form bytes : Bytes} (h : Varint.Form form length)
      (hlength : bytes.length = length.toNat) : Written (block bytes) (form ++ bytes)
  | fixed32 {bytes : Bytes} (h : bytes.length = 4) : Written (fixed32 bytes) bytes

/-- The word of a varint; zero stands for the other payloads. -/
def Payload.word : Payload → UInt64
  | varint word => word
  | _ => 0

/-- The bytes of a block; none stand for the other payloads. -/
def Payload.bytes : Payload → Bytes
  | block bytes => bytes
  | _ => []

/-- A field number and what the field holds. -/
structure Field where
  number : UInt32
  payload : Payload

/-- The header that announces a field. -/
def Field.tag (field : Field) : Tag := ⟨field.number, field.payload.wireType⟩

/-- The bytes are a form of the field. -/
inductive Field.Written (field : Field) : Bytes → Prop where
  | intro {header body : Bytes} (hadmitted : field.tag.Admitted)
      (hheader : Varint.Form header field.tag.value) (hbody : field.payload.Written body) :
      Written field (header ++ body)

theorem Block.read_reads :
    Block.read.Reads fun bytes form =>
      ∃ length header, Varint.Form header length ∧ bytes.length = length.toNat ∧
        form = header ++ bytes := by
  refine (Varint.read_reads.bind fun length => takeBytes_reads length.toNat).congr
    fun bytes form => ⟨?_, ?_⟩
  · rintro ⟨length, header, _, rfl, hheader, rfl, hlength⟩
    exact ⟨length, header, hheader, hlength, rfl⟩
  · rintro ⟨length, header, hheader, hlength, rfl⟩
    exact ⟨length, header, bytes, rfl, hheader, rfl, hlength⟩

theorem Block.read_isCodec : Block.read.IsCodec :=
  Varint.read_isCodec.bind fun _ => takeBytes_isCodec _

theorem Payload.Written.bytes_length_lt {payload : Payload} {form : Bytes}
    (h : payload.Written form) : payload.bytes.length < 2 ^ 64 := by
  cases h with
  | block hheader hlength => exact lt_of_eq_of_lt hlength (UInt64.toNat_lt _)
  | _ => exact Nat.two_pow_pos 64

/-- What the writer gives is a form of the block, if the length is a word. -/
theorem Block.encode_written {bytes : Bytes} (h : bytes.length < 2 ^ 64) :
    (Payload.block bytes).Written (Block.encode bytes) := by
  refine .block (Varint.encode_form _) ?_
  simp only [Nat.toUInt64, UInt64.toNat_ofNat']
  omega

namespace Payload

def read : WireType → Reader Payload
  | .varint => Reader.map varint Varint.read
  | .fixed64 => Reader.map fixed64 (takeBytes 8)
  | .lengthDelimited => Reader.map block Block.read
  | .fixed32 => Reader.map fixed32 (takeBytes 4)

theorem read_reads (wireType : WireType) :
    (read wireType).Reads fun payload form =>
      payload.wireType = wireType ∧ payload.Written form := by
  cases wireType with
  | varint =>
      refine (Varint.read_reads.map _).congr fun payload form => ⟨?_, ?_⟩
      · rintro ⟨word, hform, rfl⟩
        exact ⟨rfl, .varint hform⟩
      · rintro ⟨htype, hwritten⟩
        cases hwritten with
        | varint hform => exact ⟨_, hform, rfl⟩
        | _ => cases htype
  | fixed64 =>
      refine ((takeBytes_reads 8).map _).congr fun payload form => ⟨?_, ?_⟩
      · rintro ⟨bytes, ⟨rfl, hlength⟩, rfl⟩
        exact ⟨rfl, .fixed64 hlength⟩
      · rintro ⟨htype, hwritten⟩
        cases hwritten with
        | fixed64 hlength => exact ⟨_, ⟨rfl, hlength⟩, rfl⟩
        | _ => cases htype
  | lengthDelimited =>
      refine (Block.read_reads.map _).congr fun payload form => ⟨?_, ?_⟩
      · rintro ⟨bytes, ⟨length, header, hheader, hlength, rfl⟩, rfl⟩
        exact ⟨rfl, .block hheader hlength⟩
      · rintro ⟨htype, hwritten⟩
        cases hwritten with
        | block hheader hlength => exact ⟨_, ⟨_, _, hheader, hlength, rfl⟩, rfl⟩
        | _ => cases htype
  | fixed32 =>
      refine ((takeBytes_reads 4).map _).congr fun payload form => ⟨?_, ?_⟩
      · rintro ⟨bytes, ⟨rfl, hlength⟩, rfl⟩
        exact ⟨rfl, .fixed32 hlength⟩
      · rintro ⟨htype, hwritten⟩
        cases hwritten with
        | fixed32 hlength => exact ⟨_, ⟨rfl, hlength⟩, rfl⟩
        | _ => cases htype

theorem read_isCodec (wireType : WireType) : (read wireType).IsCodec := by
  cases wireType with
  | varint => exact Varint.read_isCodec.map _
  | fixed64 => exact (takeBytes_isCodec 8).map _
  | lengthDelimited => exact Block.read_isCodec.map _
  | fixed32 => exact (takeBytes_isCodec 4).map _

end Payload

namespace Field

/-- Read the rest of a field after its tag. -/
def readAfter (tag : Tag) : Reader Field :=
  Reader.map (Field.mk tag.fieldNumber) (Payload.read tag.wireType)

def read : Reader Field :=
  Reader.bind Tag.read readAfter

theorem readAfter_reads (tag : Tag) :
    (readAfter tag).Reads fun field form => field.tag = tag ∧ field.payload.Written form := by
  refine ((Payload.read_reads tag.wireType).map _).congr fun field form => ⟨?_, ?_⟩
  · rintro ⟨payload, ⟨htype, hwritten⟩, rfl⟩
    exact ⟨by rw [Field.tag, htype], hwritten⟩
  · rintro ⟨rfl, hwritten⟩
    exact ⟨field.payload, ⟨rfl, hwritten⟩, rfl⟩

theorem read_reads : read.Reads Written := by
  refine (Tag.read_reads.bind readAfter_reads).congr fun field form => ⟨?_, ?_⟩
  · rintro ⟨_, header, body, rfl, ⟨hadmitted, hheader⟩, rfl, hbody⟩
    exact .intro hadmitted hheader hbody
  · rintro ⟨hadmitted, hheader, hbody⟩
    exact ⟨field.tag, _, _, rfl, ⟨hadmitted, hheader⟩, rfl, hbody⟩

/-- What is read to the end is a form of the field. -/
theorem written_of_read {bytes : Bytes} {field : Field} (h : read bytes = .ok (field, [])) :
    field.Written bytes := by
  obtain ⟨form, rfl, hform⟩ := (read_reads _ _ _).mp h
  rwa [List.append_nil]

theorem read_isCodec : read.IsCodec :=
  Tag.read_isCodec.bind fun tag => (Payload.read_isCodec tag.wireType).map _

section Map

variable {α : Type} {tag : Tag}

/-- What is read after a tag is a field with this tag. -/
theorem map_readAfter_congr {f g : Field → α}
    (h : ∀ field : Field, field.tag = tag → f field = g field) :
    Reader.map f (readAfter tag) = Reader.map g (readAfter tag) := by
  funext bytes
  simp only [Reader.map]
  cases hread : readAfter tag bytes with
  | error fault => rfl
  | ok result =>
      obtain ⟨field, rest⟩ := result
      obtain ⟨form, _, htag, _⟩ := (readAfter_reads _ _ _ _).mp hread
      simp only [h field htag]

theorem map_varint (htype : tag.wireType = .varint) (f : UInt64 → α) :
    Reader.map f Varint.read = Reader.map (fun field => f field.payload.word) (readAfter tag) := by
  rw [readAfter, htype, Payload.read, Reader.map_map, Reader.map_map]
  rfl

theorem map_block (htype : tag.wireType = .lengthDelimited) (f : Bytes → α) :
    Reader.map f Block.read = Reader.map (fun field => f field.payload.bytes) (readAfter tag) := by
  rw [readAfter, htype, Payload.read, Reader.map_map, Reader.map_map]
  rfl

theorem map_skip (tag : Tag) (value : α) :
    Reader.map (fun _ => value) tag.wireType.skip =
      Reader.map (fun _ => value) (readAfter tag) := by
  rw [readAfter]
  cases tag.wireType <;> simp only [WireType.skip, Payload.read, Reader.map_map] <;> rfl

end Map

end Field

end GatewayLogin
