/-
Framing: frames on a byte stream, each with its length in front as a varint.

`Framing.decode` looks at what has arrived, says one of four things, and gives back the buffer that
it leaves: here is a frame, more is needed, the stream is at fault, or the end of the announced
frame lies beyond the last offset a 64-bit word can express.  `Framing.drain` repeats it until no
frame is left, and `Framing.feed` does so chunk by chunk.

A buffer is its bytes.  How much memory it has, and the room that is asked for before bytes are
missing or written, are left out: asking for room never changes the bytes.
-/
import GatewayLogin.Wire.Payload

namespace GatewayLogin

/-- A frame on the wire or off it. -/
abbrev Frame := Bytes

/-- How frames are cut: none may be longer than `maxFrameSize`. -/
structure Framing where
  maxFrameSize : UInt64 := 1048576
deriving Repr, DecidableEq

namespace Framing

/-- Offsets are 64-bit words: this one is the first that does not fit. -/
def offsetLimit : Nat := UInt64.size

/-- What a buffer says about its first frame. -/
inductive Verdict where
  | frame (body : Frame)
  /-- More bytes are needed. -/
  | more
  /-- The stream is at fault. -/
  | fault (fault : Fault)
  /-- The frame would end beyond every offset. -/
  | overflow
deriving Repr, DecidableEq

/-- Judge the first frame of a buffer and take it off.  A length that is still unfinished is only
incomplete until ten bytes of it have arrived, and a length above the maximum is refused before any
of the body. -/
def decode (framing : Framing) (buffer : Bytes) : Verdict × Bytes :=
  match Varint.read buffer with
  | .error fault => (if buffer.length < Varint.maxLength then .more else .fault fault, buffer)
  | .ok (word, behind) =>
      let length := word.toNat
      let header := buffer.length - behind.length
      if framing.maxFrameSize.toNat < length then (.fault (.oversizedFrame length), buffer)
      else if offsetLimit ≤ header + length then (.overflow, buffer)
      else if buffer.length < header + length then (.more, buffer)
      else (.frame (behind.take length), behind.drop length)

/-- The text of the fault for bytes that are left when the stream ends. -/
def leftOver : String := "bytes remaining on stream"

/-- Judge the first frame of a buffer after which nothing more arrives, and take it off. -/
def decodeAtEnd (framing : Framing) (buffer : Bytes) : Verdict × Bytes :=
  match framing.decode buffer with
  | (.more, left) => (if left.isEmpty then .more else .fault (.io leftOver), left)
  | judged => judged

/-- Append one frame to a buffer, unless it is too long. -/
def encode (framing : Framing) (frame : Frame) (buffer : Bytes) : Except Fault Unit × Bytes :=
  if framing.maxFrameSize.toNat < frame.length then
    (.error (.oversizedFrame frame.length), buffer)
  else (.ok (), buffer ++ Block.encode frame)

theorem decode_frame_shortens {framing : Framing} {buffer body rest : Bytes}
    (h : framing.decode buffer = (.frame body, rest)) : rest.length < buffer.length := by
  simp only [decode] at h
  split at h
  · split at h <;> cases h
  · rename_i word after hread
    have := Varint.read_consumes hread
    split at h
    · cases h
    · split at h
      · cases h
      · split at h
        · cases h
        · cases h
          simp only [List.length_drop]
          omega

inductive Ending where
  | more
  | fault (fault : Fault)
  | overflow
deriving Repr, DecidableEq

/-- The frames taken from a buffer, why no further one was, and what is left. -/
structure Drained where
  frames : List Frame
  ending : Ending
  left : Bytes
deriving Repr, DecidableEq

/-- Take frames from a buffer as long as there are any. -/
def drain (framing : Framing) (buffer : Bytes) : Drained :=
  match _h : framing.decode buffer with
  | (.frame body, rest) =>
      let later := drain framing rest
      { later with frames := body :: later.frames }
  | (.more, left) => ⟨[], .more, left⟩
  | (.fault fault, left) => ⟨[], .fault fault, left⟩
  | (.overflow, left) => ⟨[], .overflow, left⟩
termination_by buffer.length
decreasing_by exact decode_frame_shortens _h

/-- Drain what was left together with the next chunk; earlier frames come first. -/
def feed (framing : Framing) (state : Drained) (chunk : Bytes) : Drained :=
  let next := framing.drain (state.left ++ chunk)
  { next with frames := state.frames ++ next.frames }

def feedAll (framing : Framing) (chunks : List Bytes) : Drained :=
  chunks.foldl framing.feed ⟨[], .more, []⟩

/-- Both directions of a stream: what has arrived, and what is to be sent. -/
structure Buffers where
  input : Bytes := []
  output : Bytes := []
deriving Repr, DecidableEq

def Buffers.arrive (buffers : Buffers) (bytes : Bytes) : Buffers :=
  { buffers with input := buffers.input ++ bytes }

def Buffers.loopBack (buffers : Buffers) : Buffers :=
  ⟨buffers.input ++ buffers.output, []⟩

/-- Take the first frame off what has arrived. -/
def Buffers.take (framing : Framing) (buffers : Buffers) : Verdict × Buffers :=
  let (verdict, input) := framing.decode buffers.input
  (verdict, { buffers with input })

/-- Take the first frame off what has arrived when nothing more does. -/
def Buffers.takeAtEnd (framing : Framing) (buffers : Buffers) : Verdict × Buffers :=
  let (verdict, input) := framing.decodeAtEnd buffers.input
  (verdict, { buffers with input })

/-- Append one frame to what is to be sent, unless it is too long. -/
def Buffers.send (framing : Framing) (buffers : Buffers) (frame : Frame) :
    Except Fault Unit × Buffers :=
  let (answer, output) := framing.encode frame buffers.output
  (answer, { buffers with output })

example : decode {} [0x03, 0x01] = (.more, [0x03, 0x01]) := rfl

example : decode {} [0x01, 0xAA, 0x00] = (.frame [0xAA], [0x00]) := rfl

example : decode ⟨4⟩ [0x05] = (.fault (.oversizedFrame 5), [0x05]) := rfl

end Framing

end GatewayLogin
