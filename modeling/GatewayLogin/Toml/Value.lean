/-
TOML values, and the sections of scalars that settings are written as.
-/

namespace GatewayLogin.Toml

/-- A value without parts. -/
inductive Scalar where
  | text (value : String)
  | integer (value : Int)
  | boolean (value : Bool)
deriving Repr, DecidableEq, Inhabited

/-- A value of a document.  Floats and dates keep their written form. -/
inductive Value where
  | scalar (value : Scalar)
  | float (written : String)
  | dateTime (written : String)
  | array (items : List Value)
  | table (entries : List (String × Value))
deriving Repr, Inhabited

/-- A table as its entries, in the order in which they were first defined. -/
abbrev Entries := List (String × Value)

structure Section where
  name : String
  entries : List (String × Scalar)
deriving Repr, DecidableEq

/-- The entries of a document that consists of sections. -/
def Section.toEntries (sections : List Section) : Entries :=
  sections.map fun s => (s.name, .table (s.entries.map fun e => (e.1, .scalar e.2)))

/-- The integers a document may hold. -/
def integerLimit : Nat := 1 <<< 63

end GatewayLogin.Toml
