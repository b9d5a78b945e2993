/-
Sign-in requests there and back.

A request is written as its three fields, none of them left out, and reading is a fold over the
fields that were read (`SignInRequest.schema_folds`), so the same request is read back
(`SignInRequest.decode_encode`).
-/
import Mathlib.Tactic.SplitIfs
import GatewayLogin.Proofs.Text.Utf8
import GatewayLogin.Proofs.Wire.Message
import GatewayLogin.SignInRequest

namespace GatewayLogin.SignInRequest

/-- The bytes of a request are no more than a word can count, as those of all that is held in
memory. -/
def Sized (request : SignInRequest) : Prop :=
  request.encode.length < 2 ^ 64

def update (request : SignInRequest) (field : Field) : SignInRequest :=
  if field.tag = deviceIdTag then { request with deviceId := field.payload.word }
  else if field.tag = userIdTag then { request with userId := field.payload.word }
  else if field.tag = tokenTag then { request with token := Text.lossy field.payload.bytes }
  else request

/-- The tags under which a request takes something up. -/
def tags : List Tag := [deviceIdTag, userIdTag, tokenTag]

theorem update_of_not_mem {field : Field} (h : field.tag ∉ tags) (request : SignInRequest) :
    request.update field = request := by
  simp only [tags, List.mem_cons, List.not_mem_nil, or_false, not_or] at h
  obtain ⟨hdeviceId, huserId, htoken⟩ := h
  simp only [update, if_neg hdeviceId, if_neg huserId, if_neg htoken]

/-- Fields under different tags change different parts of a request. -/
theorem update_comm {first second : Field} (h : first.tag ≠ second.tag)
    (request : SignInRequest) :
    (request.update first).update second = (request.update second).update first := by
  by_cases hfirst : first.tag ∈ tags
  · by_cases hsecond : second.tag ∈ tags
    · simp only [tags, List.mem_cons, List.not_mem_nil, or_false] at hfirst hsecond
      rcases hfirst with hfirst | hfirst | hfirst <;>
        rcases hsecond with hsecond | hsecond | hsecond
      all_goals first
        | exact absurd (hfirst.trans hsecond.symm) h
        | simp only [update, hfirst, hsecond]
          rfl
    · rw [update_of_not_mem hsecond, update_of_not_mem hsecond]
  · rw [update_of_not_mem hfirst, update_of_not_mem hfirst]

theorem schema_folds : schema.Folds update := by
  intro tag request
  simp only [schema, absorb]
  split_ifs with hdeviceId huserId htoken
  · rw [Field.map_varint (congrArg Tag.wireType hdeviceId)]
    refine Field.map_readAfter_congr fun field htag => ?_
    simp only [update, htag, if_pos hdeviceId]
  · rw [Field.map_varint (congrArg Tag.wireType huserId)]
    refine Field.map_readAfter_congr fun field htag => ?_
    simp only [update, htag, if_neg hdeviceId, if_pos huserId]
  · rw [Block.readText, Reader.map_map, Field.map_block (congrArg Tag.wireType htoken)]
    refine Field.map_readAfter_congr fun field htag => ?_
    simp only [update, htag, if_neg hdeviceId, if_neg huserId, if_pos htoken, Function.comp_apply]
  · rw [Field.map_skip]
    refine Field.map_readAfter_congr fun field htag => ?_
    simp only [update, htag, if_neg hdeviceId, if_neg huserId, if_neg htoken]

theorem decode_sequence {fields : List Field} {bytes : Bytes} (h : Field.Sequence fields bytes) :
    decode bytes = .ok (fields.foldl update {}) := by
  rw [decode, schema_folds.read, Field.readAll_eq_ok_iff.mpr h]
  rfl

/-- The fields that a request is written as. -/
def fields (request : SignInRequest) : List Field := [
  ⟨deviceIdTag.fieldNumber, .varint request.deviceId⟩,
  ⟨userIdTag.fieldNumber, .varint request.userId⟩,
  ⟨tokenTag.fieldNumber, .block (Text.utf8 request.token)⟩]

theorem tags_admitted : deviceIdTag.Admitted ∧ userIdTag.Admitted ∧ tokenTag.Admitted := by
  simp only [Tag.Admitted]
  decide

theorem Sized.token {request : SignInRequest} (h : request.Sized) :
    (Text.utf8 request.token).length < 2 ^ 64 := by
  simp only [Sized, encode, Block.encode, List.length_append] at h
  omega

/-- A request is written as the sequence of its fields. -/
theorem encode_sequence {request : SignInRequest} (h : request.Sized) :
    Field.Sequence request.fields request.encode := by
  obtain ⟨hdeviceId, huserId, htoken⟩ := tags_admitted
  have hfirst : Field.Sequence [⟨deviceIdTag.fieldNumber, .varint request.deviceId⟩]
      (deviceIdTag.encode ++ Varint.encode request.deviceId) :=
    .single (.intro hdeviceId (Varint.encode_form _) (.varint (Varint.encode_form _)))
  have hsecond : Field.Sequence [⟨userIdTag.fieldNumber, .varint request.userId⟩]
      (userIdTag.encode ++ Varint.encode request.userId) :=
    .single (.intro huserId (Varint.encode_form _) (.varint (Varint.encode_form _)))
  have hthird : Field.Sequence [⟨tokenTag.fieldNumber, .block (Text.utf8 request.token)⟩]
      (tokenTag.encode ++ Block.encode (Text.utf8 request.token)) :=
    .single (.intro htoken (Varint.encode_form _) (Block.encode_written h.token))
  have hencode : request.encode =
      (deviceIdTag.encode ++ Varint.encode request.deviceId)
        ++ (userIdTag.encode ++ Varint.encode request.userId)
        ++ (tokenTag.encode ++ Block.encode (Text.utf8 request.token)) := by
    simp only [encode, List.append_assoc]
  rw [hencode]
  exact (hfirst.append hsecond).append hthird

theorem decode_encode {request : SignInRequest} (h : request.Sized) :
    decode request.encode = .ok request := by
  rw [decode_sequence (encode_sequence h)]
  simp [fields, update, Field.tag, Payload.wireType, Payload.word, Payload.bytes, deviceIdTag,
    userIdTag, tokenTag, Text.lossy_utf8]

/-- No request is empty, for its tags are always written. -/
theorem encode_ne_nil (request : SignInRequest) : request.encode ≠ [] := by
  intro h
  simp only [encode, List.append_eq_nil_iff] at h
  obtain ⟨⟨⟨⟨⟨htag, -⟩, -⟩, -⟩, -⟩, -⟩ := h
  exact (Varint.encode_form _).spells.ne_nil htag

end GatewayLogin.SignInRequest
