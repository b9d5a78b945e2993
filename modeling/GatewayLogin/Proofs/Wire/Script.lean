/-
What was written is read back.

To every write belong the read of its kind, which gives the value, and, unless a tag was written,
the read that passes over a payload of its wire type.  Each takes exactly what the write appended
(`Write.Admitted.answered`), so however reads are chosen for a sequence of writes, they walk from
the end of one write to the end of the next.  Main statement: `writes_read_back`.
-/
import Mathlib.Data.List.Forall2
import GatewayLogin.Proofs.Wire.Field
import GatewayLogin.Wire.Script

namespace GatewayLogin

theorem length_littleEndianBytes (count n : Nat) : (littleEndianBytes count n).length = count := by
  induction count generalizing n with
  | zero => rfl
  | succ count ih => rw [littleEndianBytes, List.length_cons, ih]

theorem littleEndian_littleEndianBytes {count n : Nat} (h : n < 256 ^ count) :
    littleEndian (littleEndianBytes count n) = n := by
  induction count generalizing n with
  | zero =>
      rw [Nat.pow_zero] at h
      simp only [littleEndianBytes, littleEndian]
      omega
  | succ count ih =>
      have hhigh : n / 256 < 256 ^ count := by
        rw [Nat.pow_succ] at h
        omega
      have hlow : (n % 256).toUInt8.toNat = n % 256 := by
        simp only [Nat.toUInt8, UInt8.toNat_ofNat']
        omega
      rw [littleEndianBytes, littleEndian, ih hhigh, hlow]
      omega

theorem takeBytes_littleEndianBytes (count n : Nat) (rest : Bytes) :
    takeBytes count (littleEndianBytes count n ++ rest) = .ok (littleEndianBytes count n, rest) :=
  (takeBytes_reads count).read_append ⟨rfl, length_littleEndianBytes count n⟩ rest

theorem Fixed32.read_append (word : UInt32) (rest : Bytes) :
    Fixed32.read (Fixed32.encode word ++ rest) = .ok (word, rest) := by
  refine Reader.map_eq_ok_iff.mpr ⟨_, takeBytes_littleEndianBytes 4 word.toNat rest, ?_⟩
  rw [littleEndian_littleEndianBytes word.toNat_lt]
  simp [Nat.toUInt32]

theorem Fixed64.read_append (word : UInt64) (rest : Bytes) :
    Fixed64.read (Fixed64.encode word ++ rest) = .ok (word, rest) := by
  refine Reader.map_eq_ok_iff.mpr ⟨_, takeBytes_littleEndianBytes 8 word.toNat rest, ?_⟩
  rw [littleEndian_littleEndianBytes word.toNat_lt]
  simp [Nat.toUInt64]

namespace Reader

variable {α β : Type}

theorem map_append {read : Reader α} {form rest : Bytes} {value : α}
    (h : read (form ++ rest) = .ok (value, rest)) (f : α → β) :
    map f read (form ++ rest) = .ok (f value, rest) :=
  map_eq_ok_iff.mpr ⟨value, h, rfl⟩

/-- A reader that takes some bytes takes them in the middle of a buffer too. -/
theorem readAt_append {read : Reader α} {form rest : Bytes} {value : α}
    (h : read (form ++ rest) = .ok (value, rest)) (before : Bytes) :
    readAt read (before ++ (form ++ rest)) before.length =
      .ok (value, (before ++ form).length) := by
  have hend : (before ++ (form ++ rest)).length - rest.length = (before ++ form).length := by
    simp only [List.length_append]
    omega
  simp only [readAt, List.drop_left, h, hend]

end Reader

theorem skipBits_bits (wireType : WireType) : skipBits wireType.bits = wireType.skip := by
  funext bytes
  simp only [skipBits, WireType.ofBits_bits]

theorem WireType.bits_injective : Function.Injective WireType.bits := by
  intro first second h
  have hfirst := WireType.ofBits_bits first
  rw [h, WireType.ofBits_bits] at hfirst
  exact (Except.ok.inj hfirst).symm

theorem Tag.ofParts_of_admitted {tag : Tag} (h : tag.Admitted) :
    ofParts tag.fieldNumber tag.wireType.bits = .ok tag := by
  obtain ⟨hlow, hhigh⟩ := h
  have hrange : ¬ (tag.fieldNumber = 0 ∨ maxFieldNumber < tag.fieldNumber.toNat) := by
    rintro (hzero | hbig)
    · rw [hzero] at hlow
      exact absurd hlow (by decide)
    · omega
  simp only [ofParts, WireType.ofBits_bits, new, if_neg hrange]

theorem Block.read_append {bytes : Bytes} (h : bytes.length < 2 ^ 64) (rest : Bytes) :
    Block.read (Block.encode bytes ++ rest) = .ok (bytes, rest) := by
  refine Block.read_reads.read_append ⟨_, _, Varint.encode_form _, ?_, rfl⟩ rest
  simp only [Nat.toUInt64, UInt64.toNat_ofNat']
  omega

namespace Write

/-- The write is not refused, and a block is no longer than a word can count, as all that is held in
memory. -/
inductive Admitted : Write → Prop where
  | varint (word : UInt64) : Admitted (varint word)
  | tag {header : Tag} (h : header.Admitted) :
      Admitted (tag header.fieldNumber header.wireType.bits)
  | block {bytes : Bytes} (h : bytes.length < 2 ^ 64) : Admitted (block bytes)
  | fixed32 (word : UInt32) : Admitted (fixed32 word)
  | fixed64 (word : UInt64) : Admitted (fixed64 word)

/-- The wire type of a payload.  A tag is none. -/
def payloadType? : Write → Option WireType
  | varint _ => some .varint
  | tag .. => none
  | block _ => some .lengthDelimited
  | fixed32 _ => some .fixed32
  | fixed64 _ => some .fixed64

/-- A read that belongs to a write, and the value that it gives. -/
inductive Answered : Write → Read × ReadValue → Prop where
  | varint (word : UInt64) : Answered (varint word) (.varint, .varint word)
  | tag {fieldNumber : UInt32} {bits : UInt8} {wireType : WireType} (h : bits = wireType.bits) :
      Answered (tag fieldNumber bits) (.tag, .tag ⟨fieldNumber, wireType⟩)
  | block (bytes : Bytes) : Answered (block bytes) (.block, .block bytes)
  | text (bytes : Bytes) : Answered (block bytes) (.text, .text (Text.lossy bytes))
  | fixed32 (word : UInt32) : Answered (fixed32 word) (.fixed32, .fixed32 word)
  | fixed64 (word : UInt64) : Answered (fixed64 word) (.fixed64, .fixed64 word)
  /-- A payload is passed over by its wire type. -/
  | skip {write : Write} {wireType : WireType} (h : write.payloadType? = some wireType) :
      Answered write (.skip wireType.bits, .skipped)

/-- A read that belongs to a write takes just what was written. -/
theorem Admitted.answered {write : Write} (h : write.Admitted) :
    ∃ form, write.bytes = .ok form ∧ ∀ answer, write.Answered answer →
      ∀ rest, answer.1.reader (form ++ rest) = .ok (answer.2, rest) := by
  cases h with
  | varint word =>
      have hread := Varint.read_reads.read_append (Varint.encode_form word)
      refine ⟨_, rfl, fun answer hanswer rest => ?_⟩
      cases hanswer with
      | varint => exact Reader.map_append (hread rest) _
      | skip hpayload =>
          cases hpayload
          rw [Read.reader, skipBits_bits]
          exact Reader.map_append (Reader.map_append (hread rest) _) _
  | @tag header hadmitted =>
      have hread := Tag.read_reads.read_append ⟨hadmitted, Varint.encode_form header.value⟩
      refine ⟨header.encode, ?_, fun answer hanswer rest => ?_⟩
      · simp only [bytes, Tag.ofParts_of_admitted hadmitted, Except.map]
      · cases hanswer with
        | tag hbits =>
            cases WireType.bits_injective hbits
            exact Reader.map_append (hread rest) _
        | skip hpayload => cases hpayload
  | block hlength =>
      have hread := Block.read_append hlength
      refine ⟨_, rfl, fun answer hanswer rest => ?_⟩
      cases hanswer with
      | block => exact Reader.map_append (hread rest) _
      | text => exact Reader.map_append (Reader.map_append (hread rest) _) _
      | skip hpayload =>
          cases hpayload
          rw [Read.reader, skipBits_bits]
          exact Reader.map_append (Reader.map_append (hread rest) _) _
  | fixed32 word =>
      refine ⟨_, rfl, fun answer hanswer rest => ?_⟩
      cases hanswer with
      | fixed32 => exact Reader.map_append (Fixed32.read_append word rest) _
      | skip hpayload =>
          cases hpayload
          rw [Read.reader, skipBits_bits]
          exact Reader.map_append
            (Reader.map_append (takeBytes_littleEndianBytes 4 word.toNat rest) _) _
  | fixed64 word =>
      refine ⟨_, rfl, fun answer hanswer rest => ?_⟩
      cases hanswer with
      | fixed64 => exact Reader.map_append (Fixed64.read_append word rest) _
      | skip hpayload =>
          cases hpayload
          rw [Read.reader, skipBits_bits]
          exact Reader.map_append
            (Reader.map_append (takeBytes_littleEndianBytes 8 word.toNat rest) _) _

end Write

/-- Writes that are not refused are read back, whatever stood in the buffer before and whatever
comes behind: each read that belongs to a write begins where the last write ended, gives its value
and ends where the buffer did after the write, and so does one that passes over the payload. -/
theorem writes_read_back (before after : Bytes) (writes : List Write)
    (hadmitted : ∀ write ∈ writes, write.Admitted) :
    ∃ stages : List Bytes, runWrites before writes = stages.map .ok ∧
      before <+: stages.getLastD before ∧
      ∀ answers : List (Read × ReadValue), List.Forall₂ Write.Answered writes answers →
        runReads (stages.getLastD before ++ after) before.length (answers.map Prod.fst) =
          List.zipWith (fun answer stage => .ok (answer.2, stage.length)) answers stages := by
  induction writes generalizing before with
  | nil =>
      refine ⟨[], rfl, List.prefix_rfl, fun answers hanswers => ?_⟩
      cases hanswers
      rfl
  | cons write rest ih =>
      obtain ⟨hwrite, hrest⟩ := List.forall_mem_cons.mp hadmitted
      obtain ⟨form, hform, hreads⟩ := hwrite.answered
      obtain ⟨stages, hstages, ⟨later, hlater⟩, hanswered⟩ := ih (before ++ form) hrest
      refine ⟨(before ++ form) :: stages, ?_, ?_, fun answers hanswers => ?_⟩
      · simp only [runWrites, hform, hstages, List.map_cons]
      · rw [List.getLastD_cons, ← hlater, List.append_assoc]
        exact List.prefix_append _ _
      · cases hanswers with
        | @cons _ answer _ answers hanswer hothers =>
            have hread : answer.1.runAt (stages.getLastD (before ++ form) ++ after) before.length =
                .ok (answer.2, (before ++ form).length) := by
              rw [← hlater, List.append_assoc, List.append_assoc]
              exact Reader.readAt_append (hreads answer hanswer _) before
            rw [List.getLastD_cons, List.map_cons, runReads, hread, List.zipWith_cons_cons]
            exact congrArg _ (hanswered answers hothers)

/-- Bytes before and behind, a block that is read once as text and once passed over, and a word that
is passed over. -/
theorem writes_read_back_inside :
    let writes : List Write :=
      [.tag 4 2, .block [0x6F, 0x6B], .varint 300, .fixed32 7, .block [0xAA], .fixed64 9]
    let answers : List (Read × ReadValue) :=
      [(.tag, .tag ⟨4, .lengthDelimited⟩), (.text, .text "ok"), (.varint, .varint 300),
        (.skip 5, .skipped), (.skip 2, .skipped), (.fixed64, .fixed64 9)]
    (∀ write ∈ writes, write.Admitted) ∧ List.Forall₂ Write.Answered writes answers ∧
      runReads [0xFF, 0x22, 0x02, 0x6F, 0x6B, 0xAC, 0x02, 0x07, 0, 0, 0, 0x01, 0xAA,
          0x09, 0, 0, 0, 0, 0, 0, 0, 0xEE] 1 (answers.map Prod.fst) =
        [.ok (.tag ⟨4, .lengthDelimited⟩, 2), .ok (.text "ok", 5), .ok (.varint 300, 7),
          .ok (.skipped, 11), .ok (.skipped, 13), .ok (.fixed64 9, 21)] := by
  intro writes answers
  have hadmitted : ∀ write ∈ writes, write.Admitted := by
    simp only [writes, List.forall_mem_cons]
    refine ⟨@Write.Admitted.tag ⟨4, .lengthDelimited⟩ ⟨by decide, by decide⟩, .block (by decide),
      .varint _, .fixed32 _, .block (by decide), .fixed64 _, ?_⟩
    simp
  have hanswers : List.Forall₂ Write.Answered writes answers :=
    .cons (.tag rfl) (.cons (.text [0x6F, 0x6B]) (.cons (.varint _)
      (.cons (@Write.Answered.skip _ .fixed32 rfl)
        (.cons (@Write.Answered.skip _ .lengthDelimited rfl) (.cons (.fixed64 _) .nil)))))
  obtain ⟨stages, hstages, -, hread⟩ := writes_read_back [0xFF] [0xEE] writes hadmitted
  have hwritten : runWrites [0xFF] writes = [
      [0xFF, 0x22], [0xFF, 0x22, 0x02, 0x6F, 0x6B],
      [0xFF, 0x22, 0x02, 0x6F, 0x6B, 0xAC, 0x02],
      [0xFF, 0x22, 0x02, 0x6F, 0x6B, 0xAC, 0x02, 0x07, 0, 0, 0],
      [0xFF, 0x22, 0x02, 0x6F, 0x6B, 0xAC, 0x02, 0x07, 0, 0, 0, 0x01, 0xAA],
      [0xFF, 0x22, 0x02, 0x6F, 0x6B, 0xAC, 0x02, 0x07, 0, 0, 0, 0x01, 0xAA,
        0x09, 0, 0, 0, 0, 0, 0, 0]].map .ok := by
    cbv
  have hinjective : Function.Injective (@Except.ok Fault Bytes) :=
    fun _ _ => Except.ok.inj
  rw [hwritten] at hstages
  cases List.map_injective_iff.mpr hinjective hstages
  exact ⟨hadmitted, hanswers, hread answers hanswers⟩

end GatewayLogin
