/-
What a buffer says about its first frame, and what it still says when more arrives.

A buffer that begins with a whole length is judged by that length (`Framing.decode_of_form`); any
other buffer is at fault once it holds ten bytes.  `Framing.Judges` has one rule for each of these
answers, and all that is known of a verdict is read off the rules.  Only a frame is taken off, all
else leaves the buffer as it was (`Framing.decode_leaves`).  Frames and faults are final: whatever
is appended, they stay (`Framing.decode_frame_append`, `Framing.decode_fault_append`).
-/
import GatewayLogin.Framing
import GatewayLogin.Proofs.Wire.Varint

namespace GatewayLogin.Framing

variable {framing : Framing}

/-- A buffer behind a whole length is judged by the length alone until it is long enough. -/
theorem decode_of_form (framing : Framing) {header : Bytes} {word : UInt64}
    (h : Varint.Form header word) (rest : Bytes) :
    framing.decode (header ++ rest) =
      if framing.maxFrameSize.toNat < word.toNat then
        (.fault (.oversizedFrame word.toNat), header ++ rest)
      else if offsetLimit ≤ header.length + word.toNat then (.overflow, header ++ rest)
      else if rest.length < word.toNat then (.more, header ++ rest)
      else (.frame (rest.take word.toNat), rest.drop word.toNat) := by
  have hread : Varint.read (header ++ rest) = .ok (word, rest) :=
    Varint.read_reads.read_append h rest
  have hheader : (header ++ rest).length - rest.length = header.length := by simp
  have hshort : (header ++ rest).length < header.length + word.toNat ↔
      rest.length < word.toNat := by
    simp
  simp only [decode, hread, hheader, hshort]

theorem decode_of_fault (framing : Framing) {buffer : Bytes} {fault : Fault}
    (h : Varint.read buffer = .error fault) :
    framing.decode buffer =
      (if buffer.length < Varint.maxLength then .more else .fault fault, buffer) := by
  simp only [decode, h]

/-- A buffer begins with a whole length or with none. -/
theorem form_or_fault (buffer : Bytes) :
    (∃ header word rest, buffer = header ++ rest ∧ Varint.Form header word) ∨
      ∃ fault, Varint.read buffer = .error fault := by
  cases hread : Varint.read buffer with
  | ok result =>
      obtain ⟨word, rest⟩ := result
      obtain ⟨header, heq, hform⟩ := (Varint.read_reads _ _ _).mp hread
      exact .inl ⟨header, word, rest, heq, hform⟩
  | error fault => exact .inr ⟨fault, rfl⟩

/-- What a buffer is like on which a verdict is given, and what is left of it. -/
inductive Judges (framing : Framing) : Bytes → Verdict → Bytes → Prop where
  | frame {header body rest : Bytes} {length : UInt64} (hheader : Varint.Form header length)
      (hbody : body.length = length.toNat) (hmax : length.toNat ≤ framing.maxFrameSize.toNat)
      (hend : header.length + length.toNat < offsetLimit) :
      Judges framing (header ++ (body ++ rest)) (.frame body) rest
  | oversized {header rest : Bytes} {length : UInt64} (hheader : Varint.Form header length)
      (hmax : framing.maxFrameSize.toNat < length.toNat) :
      Judges framing (header ++ rest) (.fault (.oversizedFrame length.toNat)) (header ++ rest)
  | overflow {header rest : Bytes} {length : UInt64} (hheader : Varint.Form header length)
      (hmax : length.toNat ≤ framing.maxFrameSize.toNat)
      (hend : offsetLimit ≤ header.length + length.toNat) :
      Judges framing (header ++ rest) .overflow (header ++ rest)
  | insideBody {header part : Bytes} {length : UInt64} (hheader : Varint.Form header length)
      (hmax : length.toNat ≤ framing.maxFrameSize.toNat)
      (hend : header.length + length.toNat < offsetLimit) (hpart : part.length < length.toNat) :
      Judges framing (header ++ part) .more (header ++ part)
  | insideLength {buffer : Bytes} {fault : Fault} (hread : Varint.read buffer = .error fault)
      (hshort : buffer.length < Varint.maxLength) : Judges framing buffer .more buffer
  | malformed {buffer : Bytes} {fault : Fault} (hread : Varint.read buffer = .error fault)
      (hlong : Varint.maxLength ≤ buffer.length) : Judges framing buffer (.fault fault) buffer

theorem Judges.decode_eq {buffer left : Bytes} {verdict : Verdict}
    (h : framing.Judges buffer verdict left) : framing.decode buffer = (verdict, left) := by
  cases h with
  | @frame header body _ length hheader hbody hmax hend =>
      have hwhole : ¬ (body ++ left).length < length.toNat := by
        rw [List.length_append]
        omega
      rw [decode_of_form framing hheader, if_neg (Nat.not_lt.mpr hmax),
        if_neg (Nat.not_le.mpr hend), if_neg hwhole, ← hbody, List.take_left, List.drop_left]
  | oversized hheader hmax => rw [decode_of_form framing hheader, if_pos hmax]
  | overflow hheader hmax hend =>
      rw [decode_of_form framing hheader, if_neg (Nat.not_lt.mpr hmax), if_pos hend]
  | insideBody hheader hmax hend hpart =>
      rw [decode_of_form framing hheader, if_neg (Nat.not_lt.mpr hmax),
        if_neg (Nat.not_le.mpr hend), if_pos hpart]
  | insideLength hread hshort => rw [decode_of_fault framing hread, if_pos hshort]
  | malformed hread hlong =>
      rw [decode_of_fault framing hread, if_neg (Nat.not_lt.mpr hlong)]

theorem judges_of_decode {buffer left : Bytes} {verdict : Verdict}
    (h : framing.decode buffer = (verdict, left)) : framing.Judges buffer verdict left := by
  rcases form_or_fault buffer with ⟨header, length, after, rfl, hheader⟩ | ⟨fault, hread⟩
  · rw [decode_of_form framing hheader] at h
    split_ifs at h with hmax hend hpart <;> cases h
    · exact .oversized hheader hmax
    · exact .overflow hheader (Nat.le_of_not_lt hmax) hend
    · exact .insideBody hheader (Nat.le_of_not_lt hmax) (Nat.lt_of_not_le hend) hpart
    · have hbody : (after.take length.toNat).length = length.toNat :=
        List.length_take_of_le (Nat.le_of_not_lt hpart)
      have hframe : framing.Judges
          (header ++ (after.take length.toNat ++ after.drop length.toNat))
          (.frame (after.take length.toNat)) (after.drop length.toNat) :=
        .frame hheader hbody (Nat.le_of_not_lt hmax) (Nat.lt_of_not_le hend)
      rwa [List.take_append_drop] at hframe
  · rw [decode_of_fault framing hread] at h
    split_ifs at h with hshort <;> cases h
    · exact .insideLength hread hshort
    · exact .malformed hread (Nat.le_of_not_lt hshort)

/-- Where no frame is taken off, the buffer stays as it was. -/
theorem decode_leaves {buffer left : Bytes} {verdict : Verdict}
    (h : framing.decode buffer = (verdict, left)) (hverdict : ∀ body, verdict ≠ .frame body) :
    left = buffer := by
  cases judges_of_decode h with
  | frame => exact absurd rfl (hverdict _)
  | oversized | overflow | insideBody | insideLength | malformed => rfl

theorem decode_frame_append {buffer body rest : Bytes}
    (h : framing.decode buffer = (.frame body, rest)) (more : Bytes) :
    framing.decode (buffer ++ more) = (.frame body, rest ++ more) := by
  cases judges_of_decode h with
  | frame hheader hbody hmax hend =>
      rw [List.append_assoc, List.append_assoc]
      exact (Judges.frame hheader hbody hmax hend).decode_eq

theorem decode_fault_append {buffer left : Bytes} {fault : Fault}
    (h : framing.decode buffer = (.fault fault, left)) (more : Bytes) :
    framing.decode (buffer ++ more) = (.fault fault, buffer ++ more) := by
  cases judges_of_decode h with
  | oversized hheader hmax =>
      rw [List.append_assoc]
      exact (Judges.oversized hheader hmax).decode_eq
  | malformed hread hlong =>
      have hstill : Varint.maxLength ≤ (buffer ++ more).length := by
        rw [List.length_append]
        omega
      exact (Judges.malformed (Varint.read_fault_append hread hlong more) hstill).decode_eq

/-- Below the maximum there is always room for the length itself. -/
theorem end_lt_offsetLimit (hroom : framing.maxFrameSize.toNat ≤ 2 ^ 64 - 1 - 10) {header : Bytes}
    {length : UInt64} (hheader : Varint.Form header length)
    (hmax : length.toNat ≤ framing.maxFrameSize.toNat) :
    header.length + length.toNat < offsetLimit := by
  have hshort : header.length ≤ 10 := hheader.length_le
  simp only [offsetLimit, UInt64.size]
  omega

theorem decode_ne_overflow (hroom : framing.maxFrameSize.toNat ≤ 2 ^ 64 - 1 - 10)
    (buffer left : Bytes) : framing.decode buffer ≠ (.overflow, left) := by
  intro h
  cases judges_of_decode h with
  | overflow hheader hmax hend =>
      exact absurd (end_lt_offsetLimit hroom hheader hmax) (Nat.not_lt.mpr hend)

end GatewayLogin.Framing
