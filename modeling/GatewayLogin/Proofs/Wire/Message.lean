/-
Messages: byte strings that are sequences of fields.

`Field.Sequence` says which byte strings are forms of several fields one after another.  Reading
field by field takes exactly these (`Field.readAll_eq_ok_iff`).  A schema that takes up a field as a
whole is a fold over the fields that were read (`Schema.Folds.read`), so that all such schemas
accept the same byte strings and fault alike.
-/
import GatewayLogin.Proofs.Wire.Field
import GatewayLogin.Wire.Schema

section Except

variable {ε α β : Type} {f : α → β} {result : Except ε α}

theorem Except.map_eq_ok_iff {b : β} : result.map f = .ok b ↔ ∃ a, result = .ok a ∧ f a = b := by
  cases result <;> simp [Except.map]

theorem Except.exists_eq_ok_iff : (∃ a, result = .ok a) ↔ result.map (fun _ => ()) = .ok () := by
  simp [map_eq_ok_iff]

theorem Except.map_eq_error_iff {e : ε} : result.map f = .error e ↔ result = .error e := by
  cases result <;> simp [Except.map]

end Except

namespace GatewayLogin

namespace Field

/-- The bytes are forms of the fields, one after another. -/
inductive Sequence : List Field → Bytes → Prop where
  | nil : Sequence [] []
  | cons {field : Field} {fields : List Field} {form rest : Bytes} (h : field.Written form)
      (hrest : Sequence fields rest) : Sequence (field :: fields) (form ++ rest)

theorem Sequence.single {field : Field} {form : Bytes} (h : field.Written form) :
    Sequence [field] form := by
  simpa using Sequence.cons h .nil

theorem Sequence.append {before after : List Field} {first second : Bytes}
    (h : Sequence before first) (hafter : Sequence after second) :
    Sequence (before ++ after) (first ++ second) := by
  induction h with
  | nil => exact hafter
  | cons hfield _ ih =>
      rw [List.append_assoc]
      exact .cons hfield ih

theorem Sequence.written_of_mem {fields : List Field} {bytes : Bytes} (h : Sequence fields bytes)
    {field : Field} (hfield : field ∈ fields) : ∃ form, field.Written form := by
  induction h with
  | nil => cases hfield
  | cons hfirst _ ih =>
      rcases List.mem_cons.mp hfield with rfl | hlater
      · exact ⟨_, hfirst⟩
      · exact ih hlater

theorem read_consumes {bytes rest : Bytes} {field : Field} (h : read bytes = .ok (field, rest)) :
    rest.length < bytes.length := by
  obtain ⟨tag, between, htag, hafter⟩ := Reader.bind_eq_ok_iff.mp h
  obtain ⟨body, rfl, _⟩ := (readAfter_reads _ _ _ _).mp hafter
  have := Tag.read_consumes htag
  rw [List.length_append] at this
  omega

def readAll (bytes : Bytes) : Except Fault (List Field) :=
  match bytes with
  | [] => .ok []
  | b :: more =>
      match _hfield : read (b :: more) with
      | .error fault => .error fault
      | .ok (field, rest) => (readAll rest).map (field :: ·)
termination_by bytes.length
decreasing_by exact read_consumes _hfield

theorem readAll_of_read {bytes rest : Bytes} {field : Field}
    (h : read bytes = .ok (field, rest)) : readAll bytes = (readAll rest).map (field :: ·) := by
  cases bytes with
  | nil => simpa using read_consumes h
  | cons b more =>
      rw [readAll]
      split
      · rename_i hfault
        cases h.symm.trans hfault
      · rename_i hok
        cases h.symm.trans hok
        rfl

theorem readAll_sound {bytes : Bytes} {fields : List Field} (h : readAll bytes = .ok fields) :
    Sequence fields bytes := by
  fun_induction readAll bytes generalizing fields with
  | case1 =>
      cases h
      exact .nil
  | case2 => cases h
  | case3 b more field rest hfield ih =>
      obtain ⟨later, hlater, rfl⟩ := Except.map_eq_ok_iff.mp h
      obtain ⟨form, heq, hform⟩ := (read_reads _ _ _).mp hfield
      rw [heq]
      exact .cons hform (ih hlater)

/-- What can be read to the end is a sequence of fields, and the other way round. -/
theorem readAll_eq_ok_iff {bytes : Bytes} {fields : List Field} :
    readAll bytes = .ok fields ↔ Sequence fields bytes := by
  constructor
  · exact readAll_sound
  · intro h
    induction h with
    | nil => rw [readAll]
    | cons hfield hrest ih =>
        rw [readAll_of_read (read_reads.read_append hfield _), ih]
        rfl

/-- Bytes are the forms of one list of fields at most. -/
theorem Sequence.unique {fields others : List Field} {bytes : Bytes} (h : Sequence fields bytes)
    (hother : Sequence others bytes) : fields = others := by
  have hread := readAll_eq_ok_iff.mpr h
  rw [readAll_eq_ok_iff.mpr hother] at hread
  exact (Except.ok.inj hread).symm

/-- Fields at the front are read first, and whatever follows is read as if it stood alone. -/
theorem readAll_append {fields : List Field} {front : Bytes} (h : Sequence fields front)
    (rest : Bytes) : readAll (front ++ rest) = (readAll rest).map (fields ++ ·) := by
  induction h with
  | nil =>
      rw [List.nil_append]
      cases readAll rest <;> rfl
  | cons hfield _ ih =>
      rw [List.append_assoc, readAll_of_read (read_reads.read_append hfield _), ih]
      cases readAll rest <;> rfl

theorem readAll_fault {bytes : Bytes} {fault : Fault} (h : readAll bytes = .error fault) :
    fault.isCodecFault = true := by
  fun_induction readAll bytes with
  | case1 => cases h
  | case2 b more other hother =>
      cases h
      exact read_isCodec hother
  | case3 b more field rest hfield ih => exact ih (Except.map_eq_error_iff.mp h)

end Field

namespace Schema

variable {α : Type} {schema : Schema α} {update : α → Field → α}

/-- The schema takes up a field as a whole: it reads what the tag announces, and then changes the
message. -/
def Folds (schema : Schema α) (update : α → Field → α) : Prop :=
  ∀ tag message, schema.absorb tag message = Reader.map (update message) (Field.readAfter tag)

theorem read_cons (schema : Schema α) (message : α) (b : UInt8) (more : Bytes) :
    schema.read message (b :: more) =
      match Tag.read (b :: more) with
      | .error fault => .error fault
      | .ok (tag, payload) =>
          match schema.absorb tag message payload with
          | .error fault => .error fault
          | .ok (message, rest) => schema.read message rest := by
  rw [read]
  split
  · rename_i htag
    rw [htag]
  · rename_i htag
    rw [htag]
    dsimp only
    split
    · rename_i hfield
      rw [hfield]
    · rename_i hfield
      rw [hfield]

theorem Folds.read_cons (h : schema.Folds update) (message : α) (b : UInt8) (more : Bytes) :
    schema.read message (b :: more) =
      match Field.read (b :: more) with
      | .error fault => .error fault
      | .ok (field, rest) => schema.read (update message field) rest := by
  rw [Schema.read_cons, Field.read, Reader.bind]
  cases Tag.read (b :: more) with
  | error fault => rfl
  | ok result =>
      obtain ⟨tag, payload⟩ := result
      dsimp only
      rw [h tag message, Reader.map]
      cases Field.readAfter tag payload <;> rfl

/-- Reading by a schema is a fold over the fields of the message. -/
theorem Folds.read (h : schema.Folds update) (message : α) (bytes : Bytes) :
    schema.read message bytes =
      (Field.readAll bytes).map fun fields => fields.foldl update message := by
  fun_induction Field.readAll bytes generalizing message with
  | case1 =>
      rw [Schema.read]
      rfl
  | case2 b more fault hfault =>
      rw [h.read_cons, hfault]
      rfl
  | case3 b more field rest hfield ih =>
      rw [h.read_cons, hfield]
      dsimp only
      rw [ih]
      cases Field.readAll rest <;> rfl

/-- Fields at the front are taken up before anything else is looked at. -/
theorem Folds.read_append (h : schema.Folds update) {fields : List Field} {front : Bytes}
    (hfront : Field.Sequence fields front) (message : α) (rest : Bytes) :
    schema.read message (front ++ rest) = schema.read (fields.foldl update message) rest := by
  rw [h.read, h.read, Field.readAll_append hfront]
  cases Field.readAll rest with
  | ok later => simp only [Except.map, List.foldl_append]
  | error fault => rfl

theorem foldl_eq_self {fields : List Field}
    (h : ∀ field ∈ fields, ∀ message, update message field = message) (message : α) :
    fields.foldl update message = message := by
  induction fields with
  | nil => rfl
  | cons field rest ih =>
      rw [List.foldl_cons, h field List.mem_cons_self]
      exact ih fun later hlater => h later (List.mem_cons_of_mem field hlater)

/-- Fields that change no message can be left out, or put in, between others. -/
theorem Folds.read_insert (h : schema.Folds update) {fields others : List Field}
    {front between : Bytes} (hfront : Field.Sequence fields front)
    (hbetween : Field.Sequence others between)
    (hothers : ∀ field ∈ others, ∀ message, update message field = message) (message : α)
    (rest : Bytes) :
    schema.read message (front ++ between ++ rest) = schema.read message (front ++ rest) := by
  rw [h.read_append (hfront.append hbetween), h.read_append hfront, List.foldl_append,
    foldl_eq_self hothers]

/-- Neighbours that change a message independently of each other can be exchanged. -/
theorem Folds.read_exchange (h : schema.Folds update) {fields : List Field} {front : Bytes}
    (hfront : Field.Sequence fields front) {first second : Field} {one other : Bytes}
    (hfirst : first.Written one) (hsecond : second.Written other)
    (hcomm : ∀ message, update (update message first) second = update (update message second) first)
    (message : α) (rest : Bytes) :
    schema.read message (front ++ one ++ other ++ rest) =
      schema.read message (front ++ other ++ one ++ rest) := by
  have hforth := (hfront.append (.single hfirst)).append (.single hsecond)
  have hback := (hfront.append (.single hsecond)).append (.single hfirst)
  rw [h.read_append hforth, h.read_append hback]
  simp only [List.foldl_append, List.foldl_cons, List.foldl_nil, hcomm]

/-- Taking up a field consumes what passing over it consumes, and faults where that does. -/
theorem Folds.absorb_skips (h : schema.Folds update) (tag : Tag) (message : α) :
    Reader.map (fun _ => ()) (schema.absorb tag message) = tag.wireType.skip := by
  rw [h, Reader.map_map]
  calc Reader.map ((fun _ => ()) ∘ update message) (Field.readAfter tag)
      = Reader.map (fun _ => ()) tag.wireType.skip := (Field.map_skip tag ()).symm
    _ = tag.wireType.skip := Reader.map_id _

/-- Whether a message can be read does not depend on what is known of its fields. -/
theorem Folds.read_alike {β : Type} {other : Schema β} {change : β → Field → β}
    (h : schema.Folds update) (hother : other.Folds change) (message : α) (blank : β)
    (bytes : Bytes) :
    (schema.read message bytes).map (fun _ => ()) = (other.read blank bytes).map fun _ => () := by
  rw [h.read, hother.read]
  cases Field.readAll bytes <;> rfl

end Schema

end GatewayLogin
