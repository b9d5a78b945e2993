/-
Readers of byte strings.

A reader takes a value off the front of a byte string and leaves the rest, or reports a fault.
`readAt` runs one inside a larger buffer, from an offset on, and answers the offset of the next
unread byte.  No reader of this library leaves more bytes than it was given (`Reader.Shortens`).
-/
import GatewayLogin.Bytes
import GatewayLogin.Fault

namespace GatewayLogin

/-- Takes a value off the front of a byte string and leaves the rest. -/
abbrev Reader (α : Type) := Bytes → Except Fault (α × Bytes)

namespace Reader

variable {α β : Type}

def map (f : α → β) (read : Reader α) : Reader β := fun bytes =>
  match read bytes with
  | .ok (value, rest) => .ok (f value, rest)
  | .error fault => .error fault

/-- Let the value that a reader gives decide how to read on. -/
def bind (read : Reader α) (next : α → Reader β) : Reader β := fun bytes =>
  match read bytes with
  | .ok (value, rest) => next value rest
  | .error fault => .error fault

/-- The reader never leaves more bytes than it was given. -/
def Shortens (read : Reader α) : Prop :=
  ∀ ⦃bytes : Bytes⦄ ⦃value : α⦄ ⦃rest : Bytes⦄,
    read bytes = .ok (value, rest) → rest.length ≤ bytes.length

theorem Shortens.map {read : Reader α} (h : Shortens read) (f : α → β) :
    Shortens (Reader.map f read) := by
  intro bytes value rest hread
  simp only [Reader.map] at hread
  split at hread
  · rename_i v r hr
    cases hread
    exact h hr
  · cases hread

theorem Shortens.bind {read : Reader α} {next : α → Reader β} (h : Shortens read)
    (hnext : ∀ value, Shortens (next value)) : Shortens (Reader.bind read next) := by
  intro bytes value rest hread
  simp only [Reader.bind] at hread
  split at hread
  · rename_i v r hr
    exact Nat.le_trans (hnext v hread) (h hr)
  · cases hread

/-- Run a reader inside `buffer` from `offset` on.  An offset beyond the end reads from nothing. -/
def readAt (read : Reader α) (buffer : Bytes) (offset : Nat) : Except Fault (α × Nat) :=
  match read (buffer.drop offset) with
  | .ok (value, rest) => .ok (value, buffer.length - rest.length)
  | .error fault => .error fault

end Reader

def takeBytes (count : Nat) : Reader Bytes := fun bytes =>
  if count ≤ bytes.length then .ok (bytes.take count, bytes.drop count)
  else .error (.truncated count bytes.length)

theorem takeBytes_shortens (count : Nat) : Reader.Shortens (takeBytes count) := by
  intro bytes value rest h
  simp only [takeBytes] at h
  split at h
  · cases h
    simp
  · cases h

end GatewayLogin
