/-
The arithmetic behind a read.

Offsets are 64-bit words, and so are the lengths that a buffer announces: a sum of the two need not
be an offset.  Here each read is done step by step on one buffer.  The bits of a byte are shifted to
their place in the word, the offset moves on byte by byte, and bytes are cut out of the buffer.  A
step has no result if its sum is no offset, if it shifts by more places than a word has, if it cuts
bytes that are not there, or if it makes a word of too many or too few.  None of these happens in a
buffer whose length is an offset, however large the offset and the announced length are, and the
steps end as the reader does (`Read.runInSteps_eq`).  Main statement: `Read.keeps_to_its_bytes`.
-/
import Mathlib.Data.Nat.Bitwise
import GatewayLogin.Proofs.Wire.Digits
import GatewayLogin.Proofs.Wire.Local

namespace GatewayLogin

/-- A read by steps: nothing if a step has no result.  A fault is a result. -/
abbrev SteppedRead (α : Type) := Bytes → Nat → Option (Except Fault (α × Nat))

namespace SteppedRead

variable {α β : Type}

/-- Let the value and the offset behind it decide how to go on. -/
def bind (steps : SteppedRead α) (next : α → SteppedRead β) : SteppedRead β := fun buffer offset =>
  match steps buffer offset with
  | some (.ok (value, behind)) => next value buffer behind
  | some (.error fault) => some (.error fault)
  | none => none

def map (f : α → β) (steps : SteppedRead α) : SteppedRead β :=
  bind steps fun value _ behind => some (.ok (f value, behind))

/-- Every step has a result, and they end as the reader does. -/
def Follows (steps : SteppedRead α) (read : Reader α) : Prop :=
  ∀ ⦃buffer : Bytes⦄, buffer.length < 2 ^ 64 → ∀ offset,
    steps buffer offset = some (read.readAt buffer offset)

end SteppedRead

/-- The sum of two offsets, if it is one. -/
def offsetSum? (m n : Nat) : Option Nat :=
  if m + n < 2 ^ 64 then some (m + n) else none

/-- The bits of a word moved up, if by fewer places than there are. -/
def shiftUp? (word : UInt64) (places : Nat) : Option UInt64 :=
  if places < 64 then some (word <<< places.toUInt64) else none

/-- The bytes from one offset to another, if these are in order and within the buffer. -/
def slice? (buffer : Bytes) (start stop : Nat) : Option Bytes :=
  if start ≤ stop ∧ stop ≤ buffer.length then some (buffer.extract start stop) else none

/-- The number that exactly `count` bytes spell, low byte first. -/
def spelled? (count : Nat) (bytes : Bytes) : Option Nat :=
  if bytes.length = count then some (littleEndian bytes) else none

namespace Varint

/-- Read on at `cursor` where `index` bytes have given the bits in `word`. -/
def scanInSteps (buffer : Bytes) :
    (room index cursor : Nat) → UInt64 → Option (Except Fault (UInt64 × Nat))
  | 0, _, _, _ => some (.error .malformedVarint)
  | room + 1, index, cursor, word =>
      match buffer[cursor]? with
      | none => some (.error .malformedVarint)
      | some b => do
          let behind ← offsetSum? cursor 1
          if index = maxLength - 1 ∧ 1 < b then some (.error .malformedVarint)
          else
            let bits ← shiftUp? (b &&& 0x7F).toUInt64 (7 * index)
            if b &&& 0x80 = 0 then some (.ok (word ||| bits, behind))
            else scanInSteps buffer room (index + 1) behind (word ||| bits)

def readInSteps : SteppedRead UInt64 := fun buffer offset =>
  scanInSteps buffer maxLength 0 offset 0

end Varint

/-- Take bytes that end within the buffer.  Where their end is no offset, they do not. -/
def takeInSteps (count : Nat) : SteppedRead Bytes := fun buffer offset =>
  match (offsetSum? offset count).filter (· ≤ buffer.length) with
  | some stop => (slice? buffer offset stop).map fun bytes => .ok (bytes, stop)
  | none => some (.error (.truncated count (buffer.length - offset)))

def Tag.readInSteps : SteppedRead Tag :=
  Varint.readInSteps.bind fun raw _ behind =>
    some ((Tag.ofValue raw).map fun tag => (tag, behind))

def Block.readInSteps : SteppedRead Bytes :=
  Varint.readInSteps.bind fun length => takeInSteps length.toNat

/-- Read a number of `count` bytes. -/
def numberInSteps (count : Nat) : SteppedRead Nat :=
  (takeInSteps count).bind fun bytes _ behind =>
    (spelled? count bytes).map fun n => .ok (n, behind)

def WireType.skipInSteps : WireType → SteppedRead Unit
  | .varint => Varint.readInSteps.map fun _ => ()
  | .fixed64 => (takeInSteps 8).map fun _ => ()
  | .lengthDelimited => Block.readInSteps.map fun _ => ()
  | .fixed32 => (takeInSteps 4).map fun _ => ()

def skipBitsInSteps (bits : UInt8) : SteppedRead Unit := fun buffer offset =>
  match WireType.ofBits bits with
  | .ok wireType => wireType.skipInSteps buffer offset
  | .error fault => some (.error fault)

/-- One read inside a buffer, step by step. -/
def Read.runInSteps : Read → SteppedRead ReadValue
  | .varint => Varint.readInSteps.map .varint
  | .tag => Tag.readInSteps.map .tag
  | .block => Block.readInSteps.map .block
  | .text => (Block.readInSteps.map Text.lossy).map .text
  | .fixed32 => ((numberInSteps 4).map Nat.toUInt32).map .fixed32
  | .fixed64 => ((numberInSteps 8).map Nat.toUInt64).map .fixed64
  | .skip bits => (skipBitsInSteps bits).map fun _ => .skipped

theorem length_sub_length_drop {buffer : Bytes} {offset : Nat} (h : offset ≤ buffer.length) :
    buffer.length - (buffer.drop offset).length = offset := by
  rw [List.length_drop, Nat.sub_sub_self h]

theorem offsetSum?_of_lt {m n : Nat} (h : m + n < 2 ^ 64) : offsetSum? m n = some (m + n) :=
  if_pos h

theorem shiftUp?_of_lt {word : UInt64} {places : Nat} (h : places < 64) :
    shiftUp? word places = some (word <<< places.toUInt64) :=
  if_pos h

theorem slice?_of_le {buffer : Bytes} {start stop : Nat} (hstart : start ≤ stop)
    (hstop : stop ≤ buffer.length) : slice? buffer start stop = some (buffer.extract start stop) :=
  if_pos ⟨hstart, hstop⟩

theorem spelled?_length (bytes : Bytes) : spelled? bytes.length bytes = some (littleEndian bytes) :=
  if_pos rfl

namespace Varint

/-- The word with the low seven bits of a byte at their place, as the byte of this index. -/
def withDigit (word : UInt64) (index : Nat) (b : UInt8) : UInt64 :=
  word ||| (b &&& 0x7F).toUInt64 <<< (7 * index).toUInt64

theorem unmarked_iff (b : UInt8) : b &&& 0x80 = 0 ↔ b < 128 := by
  have hbyte := b.toNat_lt
  have hmark : (b &&& 0x80).toNat = b.toNat / 2 ^ 7 % 2 * 2 ^ 7 := by
    rw [← Nat.toNat_testBit, ← Nat.and_two_pow]
    exact UInt8.toNat_and b 0x80
  have hzero : b &&& 0x80 = 0 ↔ (b &&& 0x80).toNat = 0 := UInt8.toNat_inj.symm
  rw [hzero, hmark, UInt8.lt_iff_toNat_lt]
  change _ ↔ b.toNat < 128
  omega

/-- The bits of a byte stay within the word at their place, for the tenth byte holds one at most. -/
theorem digit_fits {index : Nat} {b : UInt8} (hindex : index < maxLength)
    (htenth : ¬ (index = maxLength - 1 ∧ 1 < b)) : 128 ^ index * (b.toNat % 128) < 2 ^ 64 := by
  rw [maxLength] at hindex htenth
  by_cases hlast : index = 9
  · have hsmall : ¬ 1 < b := fun hbig => htenth ⟨hlast, hbig⟩
    have hbit : b.toNat ≤ 1 := UInt8.le_iff_toNat_le.mp (UInt8.not_lt.mp hsmall)
    subst hlast
    omega
  · calc 128 ^ index * (b.toNat % 128)
        ≤ 128 ^ 8 * 127 :=
          Nat.mul_le_mul (Nat.pow_le_pow_right (by decide) (by omega)) (by omega)
      _ < 2 ^ 64 := by decide

/-- Bits that come to stand above those of the word are added to it. -/
theorem toNat_withDigit {word : UInt64} {index : Nat} {b : UInt8}
    (hword : word.toNat < 128 ^ index) (hindex : index < maxLength)
    (htenth : ¬ (index = maxLength - 1 ∧ 1 < b)) :
    (withDigit word index b).toNat = word.toNat + 128 ^ index * (b.toNat % 128) := by
  have hfits := digit_fits hindex htenth
  have hbase : 128 ^ index = 2 ^ (7 * index) := (Nat.pow_mul 2 7 index).symm
  have hdigit : (b &&& 0x7F).toUInt64.toNat = b.toNat % 128 := by
    rw [UInt8.toNat_toUInt64, UInt8.toNat_and]
    exact Nat.and_two_pow_sub_one_eq_mod b.toNat 7
  have hplaces : (7 * index).toUInt64.toNat % 64 = 7 * index := by
    rw [maxLength] at hindex
    simp only [Nat.toUInt64, UInt64.toNat_ofNat']
    omega
  rw [hbase] at hword
  rw [withDigit, UInt64.toNat_or, UInt64.toNat_shiftLeft, hdigit, hplaces, Nat.shiftLeft_eq,
    ← hbase, Nat.mul_comm, Nat.mod_eq_of_lt hfits, Nat.or_comm, hbase,
    ← Nat.two_pow_add_eq_or_of_lt hword, Nat.add_comm]

theorem toNat_withDigit_lt {word : UInt64} {index : Nat} {b : UInt8}
    (hword : word.toNat < 128 ^ index) (hindex : index < maxLength)
    (htenth : ¬ (index = maxLength - 1 ∧ 1 < b)) :
    (withDigit word index b).toNat < 128 ^ (index + 1) := by
  rw [toNat_withDigit hword hindex htenth]
  calc word.toNat + 128 ^ index * (b.toNat % 128)
      < 128 ^ index + 128 ^ index * (b.toNat % 128) := Nat.add_lt_add_right hword _
    _ = 128 ^ index * (b.toNat % 128 + 1) := by rw [Nat.mul_succ, Nat.add_comm]
    _ ≤ 128 ^ index * 128 := Nat.mul_le_mul_left _ (by omega)

variable {buffer : Bytes} {room index cursor : Nat}

/-- The steps at one byte have results. -/
theorem scanInSteps_of_byte (hbuffer : buffer.length < 2 ^ 64)
    (hroom : index + (room + 1) = maxLength) {b : UInt8} (hbyte : buffer[cursor]? = some b)
    (word : UInt64) :
    scanInSteps buffer (room + 1) index cursor word =
      if room = 0 ∧ 1 < b then some (.error .malformedVarint)
      else if b < 128 then some (.ok (withDigit word index b, cursor + 1))
      else scanInSteps buffer room (index + 1) (cursor + 1) (withDigit word index b) := by
  obtain ⟨hcursor, -⟩ := List.getElem?_eq_some_iff.mp hbyte
  have hsum : offsetSum? cursor 1 = some (cursor + 1) := offsetSum?_of_lt (by omega)
  have htenth : index = maxLength - 1 ↔ room = 0 := by omega
  have hplaces : 7 * index < 64 := by
    rw [maxLength] at hroom
    omega
  simp only [scanInSteps, hbyte, hsum, htenth, shiftUp?_of_lt hplaces, unmarked_iff, withDigit,
    Option.bind_eq_bind, Option.bind_some]

/-- What is still to come is added to the bits that are there. -/
theorem scanInSteps_eq (hbuffer : buffer.length < 2 ^ 64) (hroom : index + room = maxLength)
    {word : UInt64} (hword : word.toNat < 128 ^ index) :
    scanInSteps buffer room index cursor word =
      some (match scan room (buffer.drop cursor) with
        | some (n, rest) =>
            .ok ((word.toNat + 128 ^ index * n).toUInt64, buffer.length - rest.length)
        | none => .error .malformedVarint) := by
  -- On the room left: the bits that are there stay below the place of the next digit.
  induction room generalizing index cursor word with
  | zero => rfl
  | succ room ih =>
      cases hbyte : buffer[cursor]? with
      | none =>
          have hdrop : buffer.drop cursor = [] :=
            List.drop_eq_nil_of_le (List.getElem?_eq_none_iff.mp hbyte)
          rw [scanInSteps, hbyte, hdrop]
          rfl
      | some b =>
          obtain ⟨hcursor, hb⟩ := List.getElem?_eq_some_iff.mp hbyte
          have hdrop : buffer.drop cursor = b :: buffer.drop (cursor + 1) := by
            rw [List.drop_eq_getElem_cons hcursor, hb]
          rw [scanInSteps_of_byte hbuffer hroom hbyte, hdrop, scan]
          by_cases hbig : room = 0 ∧ 1 < b
          · rw [if_pos hbig, if_pos hbig]
          rw [if_neg hbig, if_neg hbig]
          have hindex : index < maxLength := by omega
          have htenth : ¬ (index = maxLength - 1 ∧ 1 < b) :=
            fun hlast => hbig ⟨by omega, hlast.2⟩
          have hvalue := toNat_withDigit hword hindex htenth
          by_cases hlast : b < 128
          · have hdigit : b.toNat % 128 = b.toNat :=
              Nat.mod_eq_of_lt (UInt8.lt_iff_toNat_lt.mp hlast)
            rw [hdigit] at hvalue
            simp only [if_pos hlast, length_sub_length_drop hcursor, ← hvalue, Nat.toUInt64_eq,
              UInt64.ofNat_toNat]
          · rw [toNat_mod_of_marked (UInt8.not_lt.mp hlast)] at hvalue
            rw [if_neg hlast, if_neg hlast, ih (by omega) (toNat_withDigit_lt hword hindex htenth)]
            cases hlater : scan room (buffer.drop (cursor + 1)) with
            | none => rfl
            | some found =>
                obtain ⟨n, rest⟩ := found
                have hsum : (withDigit word index b).toNat + 128 ^ (index + 1) * n =
                    word.toNat + 128 ^ index * (b.toNat - 128 + 128 * n) := by
                  rw [hvalue, Nat.pow_succ, Nat.mul_add, Nat.mul_assoc, Nat.add_assoc]
                simp only [hsum]

/-- In steps a word is read as the reader reads it. -/
theorem readInSteps_follows : SteppedRead.Follows readInSteps read := by
  intro buffer hbuffer offset
  rw [readInSteps, scanInSteps_eq hbuffer (Nat.zero_add _) (by decide)]
  simp only [Reader.readAt, read]
  cases scan maxLength (buffer.drop offset) with
  | none => rfl
  | some found => simp

end Varint

namespace SteppedRead

variable {α β : Type} {steps : SteppedRead α} {read : Reader α} {Form : α → Bytes → Prop}

/-- Steps go on from where the reader goes on. -/
theorem Follows.bind (h : Follows steps read) (hreads : read.Reads Form)
    {next : α → SteppedRead β} {onward : α → Reader β}
    (hnext : ∀ value form, Form value form → ∀ buffer : Bytes, buffer.length < 2 ^ 64 →
      ∀ behind ≤ buffer.length,
        next value buffer behind = some ((onward value).readAt buffer behind)) :
    Follows (steps.bind next) (read.bind onward) := by
  intro buffer hbuffer offset
  rw [SteppedRead.bind, h hbuffer offset]
  simp only [Reader.readAt, Reader.bind]
  cases hread : read (buffer.drop offset) with
  | error fault => rfl
  | ok result =>
      obtain ⟨value, rest⟩ := result
      obtain ⟨form, hsplit, hform⟩ := (hreads _ _ _).mp hread
      -- What the reader has left is the buffer from the offset on that the steps have come to.
      have hsuffix : rest <:+ buffer := by
        have hdropped := List.drop_suffix offset buffer
        rw [hsplit] at hdropped
        exact (List.suffix_append form rest).trans hdropped
      have hrest : buffer.drop (buffer.length - rest.length) = rest :=
        (List.suffix_iff_eq_drop.mp hsuffix).symm
      have hbehind := hnext value form hform buffer hbuffer (buffer.length - rest.length)
        (Nat.sub_le ..)
      rw [Reader.readAt, hrest] at hbehind
      exact hbehind

/-- A map takes no step of its own. -/
theorem Follows.map (h : Follows steps read) (f : α → β) :
    Follows (steps.map f) (Reader.map f read) := by
  intro buffer hbuffer offset
  rw [SteppedRead.map, SteppedRead.bind, h hbuffer offset]
  simp only [Reader.readAt, Reader.map]
  cases read (buffer.drop offset) <;> rfl

end SteppedRead

/-- Only to take nothing from beyond the end would differ, and no read does this. -/
theorem takeInSteps_eq {buffer : Bytes} (hbuffer : buffer.length < 2 ^ 64) {count offset : Nat}
    (h : 0 < count ∨ offset ≤ buffer.length) :
    takeInSteps count buffer offset = some ((takeBytes count).readAt buffer offset) := by
  by_cases hfits : offset + count ≤ buffer.length
  · have hstop : (offsetSum? offset count).filter (· ≤ buffer.length) = some (offset + count) := by
      rw [offsetSum?_of_lt (by omega)]
      simp [hfits]
    have htaken : takeBytes count (buffer.drop offset) =
        .ok ((buffer.drop offset).take count, (buffer.drop offset).drop count) := by
      rw [takeBytes, if_pos]
      rw [List.length_drop]
      omega
    have hbehind : buffer.length - ((buffer.drop offset).drop count).length = offset + count := by
      rw [List.length_drop, List.length_drop]
      omega
    simp only [takeInSteps, hstop, slice?_of_le (Nat.le_add_right ..) hfits, Option.map_some,
      Reader.readAt, htaken, hbehind, List.extract_eq_take_drop, Nat.add_sub_cancel_left]
  · -- The end may be no offset or one beyond the buffer: both are told alike.
    have hstop : (offsetSum? offset count).filter (· ≤ buffer.length) = none := by
      rw [offsetSum?]
      split
      · exact Option.filter_some_neg (by simpa using hfits)
      · rfl
    have hleft : takeBytes count (buffer.drop offset) =
        .error (.truncated count (buffer.length - offset)) := by
      rw [takeBytes, if_neg, List.length_drop]
      rw [List.length_drop]
      omega
    simp only [takeInSteps, hstop, Reader.readAt, hleft]

theorem takeInSteps_follows {count : Nat} (h : 0 < count) :
    (takeInSteps count).Follows (takeBytes count) :=
  fun _ hbuffer _ => takeInSteps_eq hbuffer (.inl h)

theorem Tag.read_eq_bind :
    read = Varint.read.bind fun raw rest => (ofValue raw).map fun tag => (tag, rest) := by
  funext bytes
  simp only [read, Reader.bind]
  cases Varint.read bytes with
  | error fault => rfl
  | ok result => cases hvalue : ofValue result.1 <;> simp only [hvalue, Except.map]

theorem Tag.readInSteps_follows : SteppedRead.Follows readInSteps read := by
  rw [read_eq_bind]
  refine Varint.readInSteps_follows.bind Varint.read_reads ?_
  intro raw form _ buffer _ behind hbehind
  simp only [Reader.readAt]
  cases ofValue raw with
  | error fault => rfl
  | ok tag => simp only [Except.map, length_sub_length_drop hbehind]

theorem Block.readInSteps_follows : SteppedRead.Follows readInSteps read := by
  refine Varint.readInSteps_follows.bind Varint.read_reads ?_
  intro length form _ buffer hbuffer behind hbehind
  exact takeInSteps_eq hbuffer (.inr hbehind)

theorem numberInSteps_follows {count : Nat} (h : 0 < count) :
    (numberInSteps count).Follows (Reader.map littleEndian (takeBytes count)) := by
  have hmap : Reader.map littleEndian (takeBytes count) =
      (takeBytes count).bind fun bytes rest => .ok (littleEndian bytes, rest) := rfl
  rw [hmap]
  refine (takeInSteps_follows h).bind (takeBytes_reads count) ?_
  rintro bytes form ⟨-, rfl⟩ buffer _ behind hbehind
  simp only [spelled?_length, Option.map_some, Reader.readAt, length_sub_length_drop hbehind]

theorem WireType.skipInSteps_follows (wireType : WireType) :
    wireType.skipInSteps.Follows wireType.skip := by
  cases wireType with
  | varint => exact Varint.readInSteps_follows.map _
  | fixed64 => exact (takeInSteps_follows (by decide)).map _
  | lengthDelimited => exact Block.readInSteps_follows.map _
  | fixed32 => exact (takeInSteps_follows (by decide)).map _

theorem skipBitsInSteps_follows (bits : UInt8) :
    (skipBitsInSteps bits).Follows (skipBits bits) := by
  intro buffer hbuffer offset
  cases hbits : WireType.ofBits bits with
  | ok wireType =>
      have hskip := wireType.skipInSteps_follows hbuffer offset
      simpa only [skipBitsInSteps, skipBits, Reader.readAt, hbits] using hskip
  | error fault => simp only [skipBitsInSteps, skipBits, Reader.readAt, hbits]

/-- No step of a read lacks a result, and they end as the read does. -/
theorem Read.runInSteps_eq {buffer : Bytes} (hbuffer : buffer.length < 2 ^ 64) (read : Read)
    (offset : Nat) : read.runInSteps buffer offset = some (read.runAt buffer offset) := by
  have hfollows : read.runInSteps.Follows read.reader := by
    cases read with
    | varint => exact Varint.readInSteps_follows.map _
    | tag => exact Tag.readInSteps_follows.map _
    | block => exact Block.readInSteps_follows.map _
    | text => exact (Block.readInSteps_follows.map _).map _
    | fixed32 =>
        have hword := (@numberInSteps_follows 4 (by decide)).map Nat.toUInt32
        rw [Reader.map_map] at hword
        exact hword.map _
    | fixed64 =>
        have hword := (@numberInSteps_follows 8 (by decide)).map Nat.toUInt64
        rw [Reader.map_map] at hword
        exact hword.map _
    | skip bits => exact (skipBitsInSteps_follows bits).map _
  exact hfollows hbuffer offset

/-- A read that succeeds ends behind its offset and within the buffer, and the bytes between the two
decide it: whatever else the buffer holds, the read is the same.  Bytes in front of the place where
a read begins move the offset behind it and change no fault.  A body is told to be cut off exactly
if it is longer than what is left from where it begins, and with the number of bytes that are left.
In a buffer whose length is an offset every step has a result, at every offset. -/
theorem Read.keeps_to_its_bytes (read : Read) (buffer : Bytes) (offset : Nat) :
    (∀ value next, read.runAt buffer offset = .ok (value, next) →
      offset < next ∧ next ≤ buffer.length ∧
        ∀ other : Bytes, (∀ i, offset ≤ i → i < next → other[i]? = buffer[i]?) →
          read.runAt other offset = .ok (value, next)) ∧
    (∀ before, read.runAt (before ++ buffer) before.length =
      (read.runAt buffer 0).map fun (value, next) => (value, before.length + next)) ∧
    (∀ needed available, read.runAt buffer offset = .error (.truncated needed available) ↔
      ∃ point, read.BodyAt buffer offset point needed ∧ available = buffer.length - point ∧
        available < needed) ∧
    (buffer.length < 2 ^ 64 →
      read.runInSteps buffer offset = some (read.runAt buffer offset)) := by
  have hadvances := read.reader_advances
  refine ⟨fun value next hread => ?_, fun before => ?_, fun needed available => ?_, ?_⟩
  · obtain ⟨hbehind, hwithin⟩ := hadvances.bounds hread
    exact ⟨hbehind, hwithin, fun other hsame => hadvances.readAt_congr hread hsame⟩
  · exact hadvances.readAt_shift before buffer
  · exact runAt_eq_truncated_iff
  · exact fun hbuffer => runInSteps_eq hbuffer read offset

/-- A text with other bytes around it is read again where the first byte is another and the last is
missing.  A block that is announced to be as long as a word can say is cut off, wherever it begins,
and at the last of all offsets nothing is left. -/
theorem text_and_cut_block_keep_to_their_bytes :
    let buffer : Bytes := [0xFF, 0x02, 0x6F, 0x6B, 0xEE]
    let other : Bytes := [0x00, 0x02, 0x6F, 0x6B]
    let announced : Bytes := List.replicate 9 0xFF ++ [0x01, 0x6F]
    Read.text.runAt other 1 = .ok (.text "ok", 4) ∧
      Read.text.runInSteps buffer 1 = some (.ok (.text "ok", 4)) ∧
      Read.block.runAt ([0xEE] ++ announced) 1 = .error (.truncated (2 ^ 64 - 1) 1) ∧
      Read.block.BodyAt announced 0 10 (2 ^ 64 - 1) ∧
      Read.fixed64.runInSteps announced (2 ^ 64 - 1) = some (.error (.truncated 8 0)) := by
  intro buffer other announced
  obtain ⟨hread, -, -, hsteps⟩ := Read.keeps_to_its_bytes .text buffer 1
  obtain ⟨-, hshift, hcut, -⟩ := Read.keeps_to_its_bytes .block announced 0
  obtain ⟨-, -, -, hlast⟩ := Read.keeps_to_its_bytes .fixed64 announced (2 ^ 64 - 1)
  have htext : Read.text.runAt buffer 1 = .ok (.text "ok", 4) := rfl
  have hblock : Read.block.runAt announced 0 = .error (.truncated (2 ^ 64 - 1) 1) := by decide
  have hword : Read.fixed64.runAt announced (2 ^ 64 - 1) = .error (.truncated 8 0) := by decide
  refine ⟨?_, ?_, ?_, ?_, ?_⟩
  · refine (hread _ _ htext).2.2 other fun i hlow hhigh => ?_
    have hbetween : i = 1 ∨ i = 2 ∨ i = 3 := by omega
    rcases hbetween with rfl | rfl | rfl <;> rfl
  · rw [hsteps (by decide), htext]
  · have hmoved := hshift [0xEE]
    rw [hblock] at hmoved
    exact hmoved
  · obtain ⟨point, hbody, hleft, -⟩ := (hcut _ _).mp hblock
    have hlength : announced.length = 11 := rfl
    obtain rfl : point = 10 := by omega
    exact hbody
  · rw [hlast (by decide), hword]

end GatewayLogin
