/-
Messages that are cut off.

A cut through a sequence of fields falls between two fields or within one, and within a field it
falls within a varint, or before it, or within a body, or before it.  `Field.Cut` says this of the
forms, without mention of a reader; every cut is of one of these kinds (`Field.Sequence.cut`), and
what is left in front of it is at fault as `CutPlace.fault` says (`Field.Sequence.readAll_cut`).
-/
import GatewayLogin.Proofs.Wire.Message

namespace GatewayLogin

/-- What a cut within a field goes through. -/
inductive CutPlace where
  /-- A varint, of which only the front is left, if anything. -/
  | varint
  /-- A body of `needed` bytes, of which only `available` are left. -/
  | body (needed available : Nat)
deriving Repr, DecidableEq

/-- The fault of what is left in front of a cut. -/
def CutPlace.fault : CutPlace → Fault
  | varint => .malformedVarint
  | body needed available => .truncated needed available

/-- A form of the payload is cut in two, short of its end. -/
inductive Payload.Cut : Payload → Bytes → Bytes → CutPlace → Prop where
  | varint {word : UInt64} {front rest : Bytes} (h : Varint.Form (front ++ rest) word)
      (hrest : rest ≠ []) : Cut (varint word) front rest .varint
  | fixed64 {front rest : Bytes} (h : (front ++ rest).length = 8) (hrest : rest ≠ []) :
      Cut (fixed64 (front ++ rest)) front rest (.body 8 front.length)
  | length {length : UInt64} {front rest bytes : Bytes} (h : Varint.Form (front ++ rest) length)
      (hrest : rest ≠ []) (hlength : bytes.length = length.toNat) :
      Cut (block bytes) front (rest ++ bytes) .varint
  | block {length : UInt64} {form front rest : Bytes} (h : Varint.Form form length)
      (hlength : (front ++ rest).length = length.toNat) (hrest : rest ≠ []) :
      Cut (block (front ++ rest)) (form ++ front) rest
        (.body (front ++ rest).length front.length)
  | fixed32 {front rest : Bytes} (h : (front ++ rest).length = 4) (hrest : rest ≠ []) :
      Cut (fixed32 (front ++ rest)) front rest (.body 4 front.length)

/-- A form of the field is cut in two, behind its first byte and short of its end. -/
inductive Field.Cut (field : Field) : Bytes → Bytes → CutPlace → Prop where
  | header {front rest body : Bytes} (hadmitted : field.tag.Admitted)
      (hheader : Varint.Form (front ++ rest) field.tag.value) (hfront : front ≠ [])
      (hrest : rest ≠ []) (hbody : field.payload.Written body) :
      Cut field front (rest ++ body) .varint
  | payload {header front rest : Bytes} {place : CutPlace} (hadmitted : field.tag.Admitted)
      (hheader : Varint.Form header field.tag.value) (hbody : field.payload.Cut front rest place) :
      Cut field (header ++ front) rest place

/-- The cut falls within a field: before it and after it there are whole fields. -/
inductive Field.CutWithin (before : List Field) (field : Field) (after : List Field) :
    Bytes → Bytes → CutPlace → Prop where
  | intro {done head tail later : Bytes} {place : CutPlace} (hbefore : Sequence before done)
      (hcut : field.Cut head tail place) (hafter : Sequence after later) :
      CutWithin before field after (done ++ head) (tail ++ later) place

/-- What reads a form fails on the front of it, or else the rest would be left over. -/
theorem Reader.Reads.fault_of_cut {α : Type} {read : Reader α} {Form : α → Bytes → Prop}
    (h : Reads read Form) {value : α} {front rest : Bytes} (hform : Form value (front ++ rest))
    (hrest : rest ≠ []) : ∃ fault, read front = .error fault := by
  cases hread : read front with
  | error fault => exact ⟨fault, rfl⟩
  | ok result =>
      obtain ⟨other, left⟩ := result
      have hlonger := h.append hread rest
      have hwhole := h.read_append hform []
      rw [List.append_nil, hlonger] at hwhole
      obtain ⟨-, hleft⟩ := Prod.mk.inj (Except.ok.inj hwhole)
      exact absurd (List.append_eq_nil_iff.mp hleft).2 hrest

theorem Varint.read_cut {word : UInt64} {front rest : Bytes} (h : Form (front ++ rest) word)
    (hrest : rest ≠ []) : read front = .error .malformedVarint := by
  obtain ⟨fault, hread⟩ := read_reads.fault_of_cut h hrest
  rwa [read_fault hread] at hread

theorem takeBytes_cut {front rest : Bytes} {count : Nat} (h : (front ++ rest).length = count)
    (hrest : rest ≠ []) : takeBytes count front = .error (.truncated count front.length) := by
  have hpos := List.length_pos_iff.mpr hrest
  rw [List.length_append] at h
  rw [takeBytes, if_neg (by omega)]

namespace Payload

variable {payload : Payload} {front rest : Bytes} {place : CutPlace}

/-- A form can be cut at any byte. -/
theorem Written.cut (h : payload.Written (front ++ rest)) (hrest : rest ≠ []) :
    ∃ place, payload.Cut front rest place := by
  generalize hform : front ++ rest = form at h
  cases h with
  | varint h =>
      subst hform
      exact ⟨_, .varint h hrest⟩
  | fixed64 h =>
      subst hform
      exact ⟨_, .fixed64 h hrest⟩
  | @block _ header bytes h hlength =>
      rcases List.append_eq_append_iff.mp hform with ⟨between, rfl, rfl⟩ | ⟨between, rfl, rfl⟩
      · by_cases hbetween : between = []
        · -- The length is whole, and no byte of the body is left.
          subst hbetween
          rw [List.append_nil] at h
          have hbody : Cut (Payload.block ([] ++ bytes)) (front ++ []) bytes _ :=
            .block h hlength hrest
          rw [List.append_nil] at hbody
          exact ⟨_, hbody⟩
        · exact ⟨_, .length h hbetween hlength⟩
      · exact ⟨_, .block h hlength hrest⟩
  | fixed32 h =>
      subst hform
      exact ⟨_, .fixed32 h hrest⟩

theorem Cut.read (h : payload.Cut front rest place) :
    Payload.read payload.wireType front = .error place.fault := by
  cases h with
  | varint h hrest =>
      simp only [wireType, Payload.read, Reader.map, Varint.read_cut h hrest, CutPlace.fault]
  | fixed64 h hrest =>
      simp only [wireType, Payload.read, Reader.map, takeBytes_cut h hrest, CutPlace.fault]
  | length h hrest =>
      simp only [wireType, Payload.read, Reader.map, Block.read, Reader.bind,
        Varint.read_cut h hrest, CutPlace.fault]
  | block h hlength hrest =>
      simp only [wireType, Payload.read, Reader.map, Block.read, Reader.bind,
        Varint.read_reads.read_append h, takeBytes_cut hlength hrest, CutPlace.fault, hlength]
  | fixed32 h hrest =>
      simp only [wireType, Payload.read, Reader.map, takeBytes_cut h hrest, CutPlace.fault]

theorem Cut.available_lt {needed available : Nat}
    (h : payload.Cut front rest (.body needed available)) : available < needed := by
  cases h with
  | fixed64 h hrest | block h hlength hrest | fixed32 h hrest =>
      have hpos := List.length_pos_iff.mpr hrest
      simp only [List.length_append] at *
      omega

end Payload

namespace Field

variable {field : Field} {front rest : Bytes} {place : CutPlace}

theorem Written.cut (h : field.Written (front ++ rest)) (hfront : front ≠ []) (hrest : rest ≠ []) :
    ∃ place, field.Cut front rest place := by
  generalize hform : front ++ rest = form at h
  cases h with
  | @intro header body hadmitted hheader hbody =>
      rcases List.append_eq_append_iff.mp hform with ⟨between, rfl, rfl⟩ | ⟨between, rfl, rfl⟩
      · by_cases hbetween : between = []
        · subst hbetween
          rw [List.append_nil] at hheader
          obtain ⟨place, hcut⟩ := @Payload.Written.cut field.payload [] body hbody hrest
          have hbehind := Cut.payload hadmitted hheader hcut
          rw [List.append_nil] at hbehind
          exact ⟨place, hbehind⟩
        · exact ⟨_, .header hadmitted hheader hfront hbetween hbody⟩
      · obtain ⟨place, hcut⟩ := hbody.cut hrest
        exact ⟨place, .payload hadmitted hheader hcut⟩

theorem Cut.front_ne_nil (h : field.Cut front rest place) : front ≠ [] := by
  cases h with
  | header hadmitted hheader hfront => exact hfront
  | payload hadmitted hheader => exact List.append_ne_nil_of_left_ne_nil hheader.spells.ne_nil _

theorem Cut.read (h : field.Cut front rest place) : Field.read front = .error place.fault := by
  cases h with
  | header hadmitted hheader hfront hrest =>
      simp only [Field.read, Reader.bind, Tag.read, Varint.read_cut hheader hrest, CutPlace.fault]
  | payload hadmitted hheader hbody =>
      simp only [Field.read, Reader.bind, Tag.read_reads.read_append ⟨hadmitted, hheader⟩,
        readAfter, Reader.map, tag, hbody.read]

theorem Cut.available_lt {needed available : Nat}
    (h : field.Cut front rest (.body needed available)) : available < needed := by
  cases h with
  | payload hadmitted hheader hbody => exact hbody.available_lt

theorem readAll_of_fault {bytes : Bytes} {fault : Fault} (hbytes : bytes ≠ [])
    (h : Field.read bytes = .error fault) : readAll bytes = .error fault := by
  cases bytes with
  | nil => exact absurd rfl hbytes
  | cons b more =>
      rw [readAll]
      split
      · rename_i hfault
        cases h.symm.trans hfault
        rfl
      · rename_i hok
        cases h.symm.trans hok

/-- A cut falls between two fields or within one. -/
theorem Sequence.cut {fields : List Field} (h : Sequence fields (front ++ rest)) :
    (∃ before after, fields = before ++ after ∧ Sequence before front ∧ Sequence after rest) ∨
      ∃ before field after place, fields = before ++ field :: after ∧
        CutWithin before field after front rest place := by
  generalize hbytes : front ++ rest = bytes at h
  induction h generalizing front with
  | nil =>
      obtain ⟨rfl, rfl⟩ := List.append_eq_nil_iff.mp hbytes
      exact .inl ⟨[], [], rfl, .nil, .nil⟩
  | @cons field fields form later hfield hlater ih =>
      rcases List.append_eq_append_iff.mp hbytes with ⟨between, rfl, rfl⟩ | ⟨between, rfl, hrest⟩
      · by_cases hfront : front = []
        · subst hfront
          exact .inl ⟨[], field :: fields, rfl, .nil, .cons hfield hlater⟩
        by_cases hbetween : between = []
        · subst hbetween
          rw [List.append_nil] at hfield
          exact .inl ⟨[field], fields, rfl, .single hfield, hlater⟩
        obtain ⟨place, hcut⟩ := hfield.cut hfront hbetween
        exact .inr ⟨[], field, fields, place, rfl, .intro .nil hcut hlater⟩
      · -- The first field is whole, and the cut is further on.
        rcases ih hrest.symm with ⟨before, after, rfl, hbefore, hafter⟩ |
          ⟨before, other, after, place, rfl, hwithin⟩
        · exact .inl ⟨field :: before, after, rfl, .cons hfield hbefore, hafter⟩
        · cases hwithin with
          | intro hbefore hcut hafter =>
              rw [← List.append_assoc]
              exact .inr ⟨field :: before, other, after, place, rfl,
                .intro (.cons hfield hbefore) hcut hafter⟩

theorem CutWithin.readAll {before after : List Field}
    (h : CutWithin before field after front rest place) :
    Field.readAll front = .error place.fault := by
  cases h with
  | intro hbefore hcut =>
      rw [readAll_append hbefore, readAll_of_fault hcut.front_ne_nil hcut.read]
      rfl

theorem CutWithin.available_lt {before after : List Field} {needed available : Nat}
    (h : CutWithin before field after front rest (.body needed available)) :
    available < needed := by
  cases h with
  | intro hbefore hcut => exact hcut.available_lt

/-- What is in front of a cut can be read to its end exactly if the cut falls between two fields,
and then it is the fields before the cut. -/
theorem Sequence.readAll_front {fields : List Field} (h : Sequence fields (front ++ rest))
    {before : List Field} :
    Field.readAll front = .ok before ↔
      ∃ after, fields = before ++ after ∧ Sequence before front ∧ Sequence after rest := by
  rw [readAll_eq_ok_iff]
  constructor
  · intro hfront
    rcases h.cut with ⟨others, after, rfl, hothers, hafter⟩ | ⟨others, field, after, place, -, hcut⟩
    · obtain rfl := hothers.unique hfront
      exact ⟨after, rfl, hfront, hafter⟩
    · have hfault := hcut.readAll
      rw [readAll_eq_ok_iff.mpr hfront] at hfault
      cases hfault
  · rintro ⟨after, -, hfront, -⟩
    exact hfront

/-- What is in front of a cut is at fault exactly if the cut falls within a field, and as it falls
there. -/
theorem Sequence.readAll_cut {fields : List Field} (h : Sequence fields (front ++ rest))
    {fault : Fault} :
    Field.readAll front = .error fault ↔
      ∃ before field after place, fields = before ++ field :: after ∧
        CutWithin before field after front rest place ∧ place.fault = fault := by
  constructor
  · intro hfault
    rcases h.cut with ⟨before, after, -, hbefore, -⟩ | ⟨before, field, after, place, heq, hcut⟩
    · rw [readAll_eq_ok_iff.mpr hbefore] at hfault
      cases hfault
    · refine ⟨before, field, after, place, heq, hcut, ?_⟩
      rw [hcut.readAll] at hfault
      exact Except.error.inj hfault
  · rintro ⟨before, field, after, place, -, hcut, rfl⟩
    exact hcut.readAll

end Field

end GatewayLogin
