/-
What a read inside a buffer looks at.

A reader that reads a language without an empty form (`Reader.Advances`) ends behind its offset and
not behind the end of the buffer, it looks at nothing but the bytes between, and where it begins in
the buffer matters to the offsets alone.  All reads are of this kind (`Read.reader_advances`).  A
body that is cut off is told with the place where it begins: at the offset itself, or behind the
length that announces it (`Read.runAt_eq_truncated_iff`).
-/
import GatewayLogin.Proofs.Wire.Field
import GatewayLogin.Wire.Script

namespace GatewayLogin

namespace Reader

variable {α β : Type}

/-- The reader reads a language that has no empty form. -/
def Advances (read : Reader α) : Prop :=
  ∃ Form : α → Bytes → Prop, Reads read Form ∧ ∀ value form, Form value form → form ≠ []

theorem Advances.map {read : Reader α} (h : Advances read) (f : α → β) :
    Advances (Reader.map f read) := by
  obtain ⟨Form, hreads, hforms⟩ := h
  refine ⟨_, hreads.map f, ?_⟩
  rintro value form ⟨a, hform, -⟩
  exact hforms a form hform

section Advances

variable {read : Reader α} (h : Advances read) {buffer : Bytes} {offset next : Nat} {value : α}

include h

theorem Advances.bounds (hread : readAt read buffer offset = .ok (value, next)) :
    offset < next ∧ next ≤ buffer.length := by
  obtain ⟨Form, hreads, hforms⟩ := h
  obtain ⟨form, hfront, rfl, hform⟩ := (hreads.readAt_eq_ok_iff hforms).mp hread
  have hpos := List.length_pos_iff.mpr (hforms _ _ hform)
  have hle := hfront.length_le
  rw [List.length_drop] at hle
  omega

/-- Of the buffer only the bytes between the offset and the end of the read matter. -/
theorem Advances.readAt_congr (hread : readAt read buffer offset = .ok (value, next))
    {other : Bytes} (hsame : ∀ i, offset ≤ i → i < next → other[i]? = buffer[i]?) :
    readAt read other offset = .ok (value, next) := by
  obtain ⟨Form, hreads, hforms⟩ := h
  obtain ⟨form, hfront, rfl, hform⟩ := (hreads.readAt_eq_ok_iff hforms).mp hread
  refine (hreads.readAt_eq_ok_iff hforms).mpr ⟨form, ?_, rfl, hform⟩
  rw [List.prefix_iff_getElem?] at hfront ⊢
  intro i hi
  rw [List.getElem?_drop, hsame (offset + i) (by omega) (by omega), ← List.getElem?_drop]
  exact hfront i hi

/-- What stands in front of the place where the reader begins only moves the offset. -/
theorem Advances.readAt_shift (before rest : Bytes) :
    readAt read (before ++ rest) before.length =
      (readAt read rest 0).map fun (value, next) => (value, before.length + next) := by
  obtain ⟨Form, hreads, -⟩ := h
  simp only [readAt, List.drop_left, List.drop_zero]
  cases hread : read rest with
  | error fault => rfl
  | ok result =>
      obtain ⟨value, left⟩ := result
      obtain ⟨form, rfl, -⟩ := (hreads _ _ _).mp hread
      have hend : (before ++ (form ++ left)).length - left.length =
          before.length + ((form ++ left).length - left.length) := by
        simp only [List.length_append]
        omega
      simp only [hend, Except.map]

end Advances

end Reader

theorem Varint.read_advances : Varint.read.Advances :=
  ⟨_, read_reads, fun _ _ hform => hform.spells.ne_nil⟩

theorem Tag.read_advances : Tag.read.Advances :=
  ⟨_, read_reads, fun _ _ hform => hform.2.spells.ne_nil⟩

theorem takeBytes_advances {count : Nat} (h : 0 < count) : (takeBytes count).Advances := by
  refine ⟨_, takeBytes_reads count, ?_⟩
  rintro taken _ ⟨rfl, rfl⟩
  exact List.length_pos_iff.mp h

theorem Block.read_advances : Block.read.Advances := by
  refine ⟨_, read_reads, ?_⟩
  rintro bytes _ ⟨length, header, hheader, -, rfl⟩
  exact List.append_ne_nil_of_left_ne_nil hheader.spells.ne_nil bytes

theorem WireType.skip_advances (wireType : WireType) : wireType.skip.Advances := by
  cases wireType with
  | varint => exact Varint.read_advances.map _
  | fixed64 => exact (takeBytes_advances (by decide)).map _
  | lengthDelimited => exact Block.read_advances.map _
  | fixed32 => exact (takeBytes_advances (by decide)).map _

/-- Bits that stand for no wire type pass over nothing at all. -/
theorem skipBits_advances (bits : UInt8) : (skipBits bits).Advances := by
  cases hbits : WireType.ofBits bits with
  | ok wireType =>
      have hskip : skipBits bits = wireType.skip := by
        funext bytes
        simp only [skipBits, hbits]
      rw [hskip]
      exact wireType.skip_advances
  | error fault =>
      refine ⟨fun _ _ => False, ?_, fun _ _ hform => hform.elim⟩
      intro bytes value rest
      simp [skipBits, hbits]

theorem Read.reader_advances (read : Read) : read.reader.Advances := by
  cases read with
  | varint => exact Varint.read_advances.map _
  | tag => exact Tag.read_advances.map _
  | block => exact Block.read_advances.map _
  | text => exact (Block.read_advances.map _).map _
  | fixed32 => exact ((takeBytes_advances (by decide)).map _).map _
  | fixed64 => exact ((takeBytes_advances (by decide)).map _).map _
  | skip bits => exact (skipBits_advances bits).map _

/-- Behind its header a payload has a body of so many bytes. -/
inductive WireType.Body : WireType → Bytes → Nat → Prop where
  | fixed64 : Body .fixed64 [] 8
  | lengthDelimited {header : Bytes} {length : UInt64} (h : Varint.Form header length) :
      Body .lengthDelimited header length.toNat
  | fixed32 : Body .fixed32 [] 4

/-- The wire type of the payload that is read or passed over.  A tag is none, and there are bits
that stand for none. -/
def Read.payloadType? : Read → Option WireType
  | .varint => some .varint
  | .tag => none
  | .block => some .lengthDelimited
  | .text => some .lengthDelimited
  | .fixed32 => some .fixed32
  | .fixed64 => some .fixed64
  | .skip bits => (WireType.ofBits bits).toOption

/-- A read at the offset comes to a body of `needed` bytes, and this begins at `point`. -/
def Read.BodyAt (read : Read) (buffer : Bytes) (offset point needed : Nat) : Prop :=
  ∃ wireType header, read.payloadType? = some wireType ∧ wireType.Body header needed ∧
    header <+: buffer.drop offset ∧ point = offset + header.length

theorem takeBytes_eq_truncated_iff {count : Nat} {bytes : Bytes} {needed available : Nat} :
    takeBytes count bytes = .error (.truncated needed available) ↔
      needed = count ∧ available = bytes.length ∧ available < needed := by
  simp only [takeBytes]
  split
  · rename_i hle
    simp only [reduceCtorEq, false_iff]
    omega
  · rename_i hlt
    simp only [Except.error.injEq, Fault.truncated.injEq]
    omega

theorem Varint.read_ne_truncated {bytes : Bytes} {needed available : Nat} :
    read bytes ≠ .error (.truncated needed available) := by
  intro h
  cases read_fault h

theorem Tag.ofValue_ne_truncated {raw : UInt64} {needed available : Nat} :
    ofValue raw ≠ .error (.truncated needed available) := by
  intro h
  simp only [ofValue] at h
  split at h
  · cases h
  · split at h
    · cases h
    · rename_i hbits
      cases h
      cases WireType.ofBits_fault hbits

theorem Tag.read_ne_truncated {bytes : Bytes} {needed available : Nat} :
    read bytes ≠ .error (.truncated needed available) := by
  intro h
  simp only [read] at h
  split at h
  · split at h
    · cases h
    · rename_i hfault
      cases h
      exact ofValue_ne_truncated hfault
  · rename_i hfault
    cases h
    exact Varint.read_ne_truncated hfault

theorem Block.read_eq_truncated_iff {bytes : Bytes} {needed available : Nat} :
    read bytes = .error (.truncated needed available) ↔
      ∃ length header rest, bytes = header ++ rest ∧ Varint.Form header length ∧
        needed = length.toNat ∧ available = rest.length ∧ available < needed := by
  simp only [read, Reader.bind_eq_error_iff, Varint.read_ne_truncated, false_or,
    takeBytes_eq_truncated_iff]
  constructor
  · rintro ⟨length, rest, hread, hleft⟩
    obtain ⟨header, rfl, hform⟩ := (Varint.read_reads _ _ _).mp hread
    exact ⟨length, header, rest, rfl, hform, hleft⟩
  · rintro ⟨length, header, rest, rfl, hform, hleft⟩
    exact ⟨length, rest, Varint.read_reads.read_append hform rest, hleft⟩

/-- A payload is cut off where its body is longer than what is left behind its header. -/
theorem WireType.skip_eq_truncated_iff {wireType : WireType} {bytes : Bytes}
    {needed available : Nat} :
    wireType.skip bytes = .error (.truncated needed available) ↔
      ∃ header rest, bytes = header ++ rest ∧ wireType.Body header needed ∧
        available = rest.length ∧ available < needed := by
  cases wireType with
  | varint =>
      rw [skip, Reader.map_eq_error_iff]
      refine iff_of_false Varint.read_ne_truncated ?_
      rintro ⟨header, rest, -, hbody, -⟩
      cases hbody
  | fixed64 | fixed32 =>
      rw [skip, Reader.map_eq_error_iff, takeBytes_eq_truncated_iff]
      constructor
      · rintro ⟨rfl, hleft⟩
        exact ⟨[], bytes, rfl, by constructor, hleft⟩
      · rintro ⟨header, rest, rfl, hbody, hleft⟩
        cases hbody
        exact ⟨rfl, hleft⟩
  | lengthDelimited =>
      rw [skip, Reader.map_eq_error_iff, Block.read_eq_truncated_iff]
      constructor
      · rintro ⟨length, header, rest, rfl, hform, rfl, hleft⟩
        exact ⟨header, rest, rfl, .lengthDelimited hform, hleft⟩
      · rintro ⟨header, rest, rfl, hbody, hleft⟩
        cases hbody with
        | lengthDelimited hform => exact ⟨_, header, rest, rfl, hform, rfl, hleft⟩

/-- To read a payload fails exactly as to pass over it does. -/
theorem Read.reader_eq_error_iff {read : Read} {wireType : WireType}
    (h : read.payloadType? = some wireType) {bytes : Bytes} {fault : Fault} :
    read.reader bytes = .error fault ↔ wireType.skip bytes = .error fault := by
  cases read with
  | tag => cases h
  | skip bits =>
      cases hbits : WireType.ofBits bits with
      | error other => simp [payloadType?, hbits, Except.toOption] at h
      | ok found =>
          obtain rfl : found = wireType := by simpa [payloadType?, hbits, Except.toOption] using h
          simp only [reader, Reader.map_eq_error_iff, skipBits, hbits]
  | _ =>
      cases h
      simp only [reader, Block.readText, Fixed32.read, Fixed64.read, WireType.skip,
        Reader.map_eq_error_iff]

theorem Read.reader_ne_truncated {read : Read} (h : read.payloadType? = none) {bytes : Bytes}
    {needed available : Nat} : read.reader bytes ≠ .error (.truncated needed available) := by
  cases read with
  | tag =>
      rw [reader, ne_eq, Reader.map_eq_error_iff]
      exact Tag.read_ne_truncated
  | skip bits =>
      cases hbits : WireType.ofBits bits with
      | ok found => simp [payloadType?, hbits, Except.toOption] at h
      | error fault =>
          rw [reader, ne_eq, Reader.map_eq_error_iff]
          simp [skipBits, hbits, WireType.ofBits_fault hbits]
  | _ => cases h

/-- A read says that a body is cut off exactly if it comes to one that is longer than what is left
from there on; beyond the end of the buffer nothing is left. -/
theorem Read.runAt_eq_truncated_iff {read : Read} {buffer : Bytes} {offset needed available : Nat} :
    read.runAt buffer offset = .error (.truncated needed available) ↔
      ∃ point, read.BodyAt buffer offset point needed ∧ available = buffer.length - point ∧
        available < needed := by
  rw [runAt, Reader.readAt_eq_error_iff]
  have hleft {header rest : Bytes} (hsplit : header ++ rest = buffer.drop offset) :
      buffer.length - (offset + header.length) = rest.length := by
    have hlength := congrArg List.length hsplit
    rw [List.length_append, List.length_drop] at hlength
    omega
  cases hpayload : read.payloadType? with
  | none =>
      refine iff_of_false (reader_ne_truncated hpayload) ?_
      rintro ⟨point, ⟨wireType, header, hsome, -⟩, -⟩
      cases hpayload.symm.trans hsome
  | some wireType =>
      rw [reader_eq_error_iff hpayload, WireType.skip_eq_truncated_iff]
      constructor
      · rintro ⟨header, rest, hsplit, hbody, rfl, hshort⟩
        refine ⟨_, ⟨wireType, header, hpayload, hbody, ⟨rest, hsplit.symm⟩, rfl⟩, ?_, hshort⟩
        exact (hleft hsplit.symm).symm
      · rintro ⟨_, ⟨other, header, hsome, hbody, ⟨rest, hsplit⟩, rfl⟩, rfl, hshort⟩
        cases hpayload.symm.trans hsome
        exact ⟨header, rest, hsplit.symm, hbody, hleft hsplit, hshort⟩

end GatewayLogin
