/-
Data trees: records, lists and scalars, the shape in which values are exchanged with other programs.
-/

namespace GatewayLogin

/-- A tree of plain data.  Fields of a record keep their order. -/
inductive Datum where
  | null
  | boolean (value : Bool)
  | integer (value : Int)
  /-- A number that is not written as an integer. -/
  | real
  | text (value : String)
  | list (items : List Datum)
  | record (fields : List (String × Datum))
deriving Repr, Inhabited

namespace Datum

def field? (name : String) : Datum → Option Datum
  | .record fields => (fields.find? fun entry => entry.1 == name).map Prod.snd
  | _ => none

def integerIn? (low high : Int) : Datum → Option Int
  | .integer value => if low ≤ value ∧ value < high then some value else none
  | _ => none

def natBelow? (limit : Nat) (datum : Datum) : Option Nat :=
  (datum.integerIn? 0 limit).map Int.toNat

def int32? (datum : Datum) : Option Int32 :=
  (datum.integerIn? Int32.minValue.toInt (Int32.maxValue.toInt + 1)).map Int32.ofInt

def text? : Datum → Option String
  | .text value => some value
  | _ => none

end Datum

end GatewayLogin
