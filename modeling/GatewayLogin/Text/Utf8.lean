/-
UTF-8 in both directions.

Writing is exact.  Reading never fails: each longest run of bytes that begins a character but does
not complete it, and each byte that begins none, is read as one replacement character.  The reader
is a machine that takes one byte at a time, so every byte string is read to its end.
-/
import GatewayLogin.Bytes

namespace GatewayLogin.Text

def utf8 (text : String) : Bytes :=
  text.toList.flatMap String.utf8EncodeChar

/-- The character that stands for unreadable bytes. -/
def replacement : Char := '\ufffd'

/-- Where the reader stands inside a character: the range the next byte must lie in, how many
bytes are still owed after it, and the bits read so far. -/
structure Partial where
  low : UInt8
  high : UInt8
  owed : Nat
  bits : Nat
deriving Repr, DecidableEq

/-- What the first byte of a character says. -/
inductive Lead where
  /-- The byte is a character by itself. -/
  | whole (c : Char)
  /-- More bytes are owed. -/
  | opens (p : Partial)
  /-- No character begins with this byte. -/
  | stray
deriving Repr, DecidableEq

/-- Classify a byte that stands between characters.  The ranges of the second byte shut out
overlong forms, surrogates and code points beyond U+10FFFF. -/
def lead (b : UInt8) : Lead :=
  if b < 0x80 then .whole (Char.ofNat b.toNat)
  else if b < 0xC2 then .stray
  else if b < 0xE0 then .opens ⟨0x80, 0xBF, 0, b.toNat - 0xC0⟩
  else if b = 0xE0 then .opens ⟨0xA0, 0xBF, 1, 0⟩
  else if b = 0xED then .opens ⟨0x80, 0x9F, 1, 0xD⟩
  else if b < 0xF0 then .opens ⟨0x80, 0xBF, 1, b.toNat - 0xE0⟩
  else if b = 0xF0 then .opens ⟨0x90, 0xBF, 2, 0⟩
  else if b < 0xF4 then .opens ⟨0x80, 0xBF, 2, b.toNat - 0xF0⟩
  else if b = 0xF4 then .opens ⟨0x80, 0x8F, 2, 4⟩
  else .stray

/-- The characters settled by a byte between characters, and the unfinished one it leaves. -/
def begin (b : UInt8) : List Char × Option Partial :=
  match lead b with
  | .whole c => ([c], none)
  | .opens p => ([], some p)
  | .stray => ([replacement], none)

/-- One byte of input: the characters it settles, and the unfinished one it leaves.  A byte that
cannot continue an unfinished character settles that one as unreadable and is taken afresh. -/
def advance (state : Option Partial) (b : UInt8) : List Char × Option Partial :=
  match state with
  | none => begin b
  | some p =>
      if p.low ≤ b ∧ b ≤ p.high then
        let bits := p.bits * 64 + b.toNat % 64
        match p.owed with
        | 0 => ([Char.ofNat bits], none)
        | owed + 1 => ([], some ⟨0x80, 0xBF, owed, bits⟩)
      else
        let next := begin b
        (replacement :: next.1, next.2)

/-- The characters of a byte string read from a given state. -/
def readFrom : Option Partial → Bytes → List Char
  | none, [] => []
  | some _, [] => [replacement]
  | state, b :: rest => (advance state b).1 ++ readFrom (advance state b).2 rest

/-- The text of a byte string, unreadable parts replaced. -/
def lossy (bytes : Bytes) : String :=
  String.ofList (readFrom none bytes)

/-- The text of a byte string, if it has no unreadable part. -/
def strict? (bytes : Bytes) : Option String :=
  let text := lossy bytes
  if utf8 text = bytes then some text else none

example : utf8 "é日" = [0xC3, 0xA9, 0xE6, 0x97, 0xA5] := by decide +kernel

example : readFrom none [0xE2, 0x82, 0x41] = [replacement, 'A'] := by decide

example : readFrom none [0xED, 0xA0, 0x80] = [replacement, replacement, replacement] := by decide

end GatewayLogin.Text
