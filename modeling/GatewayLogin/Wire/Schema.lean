/-
Schemas: how a message is read as a sequence of fields.

A message is read field by field, in any order.  A schema says how the payload announced by a tag
changes the message read so far; whatever it does not know it passes over.  The message ends where
its bytes end.
-/
import GatewayLogin.Wire.Payload

namespace GatewayLogin

/-- How a message takes up one field after its tag. -/
structure Schema (α : Type) where
  absorb : Tag → α → Reader α
  shortens : ∀ (tag : Tag) (message : α), Reader.Shortens (absorb tag message)

variable {α : Type}

/-- Read all fields, starting from a message without any. -/
def Schema.read (schema : Schema α) (message : α) (bytes : Bytes) : Except Fault α :=
  match bytes with
  | [] => .ok message
  | b :: more =>
      match _htag : Tag.read (b :: more) with
      | .error fault => .error fault
      | .ok (tag, payload) =>
          match _hfield : schema.absorb tag message payload with
          | .error fault => .error fault
          | .ok (message, rest) => schema.read message rest
termination_by bytes.length
decreasing_by
  have := Tag.read_consumes _htag
  have := schema.shortens _ _ _hfield
  omega

end GatewayLogin
