/-
Growing a TOML document: which definitions go together.

A table is defined by its header, by a header below it, or by a dotted key.  It may be given a
header once, and only if no dotted key made it; a dotted key may add to it only if it has none.
Values, with the arrays and tables written inside them, are closed.  Each header of an array of
tables adds a table, and later definitions go into the last.
-/
import GatewayLogin.Toml.Value

namespace GatewayLogin.Toml

/-- How a table came to be. -/
inductive Origin where
  /-- By a header of its own. -/
  | header
  /-- By a header below it. -/
  | implied
  /-- By a dotted key through it. -/
  | dotted
deriving Repr, DecidableEq

/-- A part of a growing document. -/
inductive Node where
  | leaf (value : Value)
  | table (origin : Origin) (entries : List (String × Node))
  | tables (items : List (List (String × Node)))
deriving Repr, Inhabited

abbrev Nodes := List (String × Node)

def find? (key : String) (entries : Nodes) : Option Node :=
  (entries.find? fun e => e.1 == key).map Prod.snd

/-- Put another part at a key that is defined. -/
def replace (key : String) (node : Node) (entries : Nodes) : Nodes :=
  entries.map fun e => if e.1 == key then (key, node) else e

/-- Change the table at the end of a path, making the tables on the way that are missing.  Dotted
keys do not enter tables with a header. -/
def within (byDots : Bool) (change : Origin → Nodes → Option Nodes) :
    List String → Origin → Nodes → Option Nodes
  | [], origin, entries => change origin entries
  | key :: path, _, entries =>
      match find? key entries with
      | none =>
          let origin := if byDots then Origin.dotted else .implied
          (within byDots change path origin []).map fun inner =>
            entries ++ [(key, .table origin inner)]
      | some (.leaf _) => none
      | some (.table origin inner) =>
          if byDots && origin == .header then none
          else
            (within byDots change path origin inner).map fun inner =>
              replace key (.table origin inner) entries
      | some (.tables items) =>
          (within byDots change path .header (items.getLastD [])).map fun last =>
            replace key (.tables (items.dropLast ++ [last])) entries

/-- Define a key, with the dotted keys that lead to it.  A dotted key must end in a table made by
dots. -/
def define (path : List String) (key : String) (value : Value) :
    Origin → Nodes → Option Nodes :=
  within true (fun origin entries =>
    if (origin == .dotted) == path.isEmpty || (find? key entries).isSome then none
    else some (entries ++ [(key, .leaf value)])) path

/-- A header for a table, below the tables it names first. -/
def openTable (path : List String) (key : String) (root : Nodes) : Option Nodes :=
  within false (fun _ entries =>
    match find? key entries with
    | none => some (entries ++ [(key, .table .header [])])
    | some (.table .implied inner) =>
        some ((entries.filter fun e => e.1 != key) ++ [(key, .table .header inner)])
    | some _ => none) path .header root

/-- A header for one more table of an array. -/
def openArrayTable (path : List String) (key : String) (root : Nodes) : Option Nodes :=
  within false (fun _ entries =>
    match find? key entries with
    | none => some (entries ++ [(key, .tables [[]])])
    | some (.tables items) => some (replace key (.tables (items ++ [[]])) entries)
    | some _ => none) path .header root

mutual

def Node.toValue : Node → Value
  | .leaf value => value
  | .table _ entries => .table (toEntries entries)
  | .tables items => .array (toItems items)

def toEntries : Nodes → Entries
  | [] => []
  | (key, node) :: rest => (key, node.toValue) :: toEntries rest

def toItems : List Nodes → List Value
  | [] => []
  | entries :: rest => .table (toEntries entries) :: toItems rest

end

end GatewayLogin.Toml
