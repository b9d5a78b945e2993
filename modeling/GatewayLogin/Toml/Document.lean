/-
TOML documents: from text to a table of values.

A document is a sequence of lines: blank ones, comments, keys with their values, and headers.
Arrays may run over several lines, inline tables may not.  Values nest, and keys are dotted, fewer
than eighty levels deep.
-/
import GatewayLogin.Toml.Number
import GatewayLogin.Toml.Tree

namespace GatewayLogin.Toml

/-- How deep values may nest and keys may be dotted. -/
def depthLimit : Nat := 80

/-- Whether a character may stand in a key without quotes. -/
def isKeyChar (c : Char) : Bool :=
  c.isAlphanum || c == '_' || c == '-'

def scanKeyPart : Scanner String := fun chars =>
  match scanShortText chars with
  | some found => some found
  | none =>
      let key := chars.takeWhile isKeyChar
      if key.isEmpty then none else some (String.ofList key, chars.dropWhile isKeyChar)

/-- The parts of a dotted key, spaces around each. -/
def scanKeyParts (chars : List Char) : Option (List String × List Char) :=
  match scanKeyPart (skipSpaces chars) with
  | none => none
  | some (part, rest) =>
      match skipSpaces rest with
      | '.' :: more =>
          if more.length < chars.length then
            (scanKeyParts more).map fun (parts, rest) => (part :: parts, rest)
          else none
      | rest => some ([part], rest)
termination_by chars.length

/-- A dotted key: the way to its last part, and that part. -/
def scanKey : Scanner (List String × String) := fun chars => do
  let (parts, rest) ← scanKeyParts chars
  let key ← parts.getLast?
  if parts.length < depthLimit then some ((parts.dropLast, key), rest) else none

/-- The items of an array and its closing bracket.  A comma may follow the last item. -/
def scanItems (item : Scanner Value) (chars : List Char) : Option (List Value × List Char) :=
  match skipLines false chars with
  | ']' :: rest => some ([], rest)
  | start =>
      match item start with
      | none => none
      | some (value, rest) =>
          match skipLines false rest with
          | ']' :: rest => some ([value], rest)
          | ',' :: rest =>
              if rest.length < chars.length then
                (scanItems item rest).map fun (values, rest) => (value :: values, rest)
              else none
          | _ => none
termination_by chars.length

/-- The entries of an inline table and its closing brace, after an opening brace or a comma. -/
def scanPairs (item : Scanner Value) (entries : Nodes) (chars : List Char) :
    Option (Nodes × List Char) :=
  match scanKey chars with
  | none => none
  | some ((path, key), rest) =>
      match exactly '=' rest with
      | none => none
      | some rest =>
          match item (skipSpaces rest) with
          | none => none
          | some (value, rest) =>
              match define path key value .header entries with
              | none => none
              | some entries =>
                  match skipSpaces rest with
                  | '\x7d' :: rest => some (entries, rest)
                  | ',' :: rest =>
                      if rest.length < chars.length then scanPairs item entries rest else none
                  | _ => none
termination_by chars.length

/-- An inline table after its opening brace. -/
def scanInlineTable (item : Scanner Value) : Scanner Value := fun chars =>
  match skipSpaces chars with
  | '\x7d' :: rest => some (.table [], rest)
  | _ => (scanPairs item [] chars).map fun (entries, rest) => (.table (toEntries entries), rest)

def exactWord (word : String) (value : Value) : Scanner Value := fun chars =>
  if word.toList.isPrefixOf chars then some (value, chars.drop word.length) else none

/-- A value that nests at most `depth` levels. -/
def scanValue : (depth : Nat) → Scanner Value
  | depth, chars =>
      match chars with
      | [] => none
      | c :: rest =>
          if c = quote ∨ c = apostrophe then
            (scanText chars).map fun (text, rest) => (.scalar (.text text), rest)
          else if c = '[' then
            match depth with
            | 0 => none
            | depth + 1 =>
                (scanItems (scanValue depth) rest).map fun (items, rest) => (.array items, rest)
          else if c = '\x7b' then
            match depth with
            | 0 => none
            | depth + 1 => scanInlineTable (scanValue depth) rest
          else if c = 't' then exactWord "true" (.scalar (.boolean true)) chars
          else if c = 'f' then exactWord "false" (.scalar (.boolean false)) chars
          else scanNumber chars

/-- A document while it is read: all that is defined, and the table that keys go to. -/
structure Draft where
  root : Nodes := []
  current : List String := []
deriving Inhabited

def Draft.define (draft : Draft) (path : List String) (key : String) (value : Value) :
    Option Draft :=
  (within false (Toml.define path key value) draft.current .header draft.root).map fun root =>
    { draft with root }

/-- One line: what the draft becomes, and the lines after it. -/
def scanLine (draft : Draft) : Scanner Draft
  | '#' :: rest => (lineEnd? ('#' :: rest)).map fun rest => (draft, rest)
  | '\n' :: rest => some (draft, rest)
  | '\r' :: '\n' :: rest => some (draft, rest)
  | '[' :: '[' :: rest => do
      let ((path, key), rest) ← scanKey rest
      let rest ← exactly ']' rest
      let rest ← exactly ']' rest
      let rest ← lineEnd? rest
      let root ← openArrayTable path key draft.root
      return (⟨root, path ++ [key]⟩, rest)
  | '[' :: rest => do
      let ((path, key), rest) ← scanKey rest
      let rest ← exactly ']' rest
      let rest ← lineEnd? rest
      let root ← openTable path key draft.root
      return (⟨root, path ++ [key]⟩, rest)
  | chars => do
      let ((path, key), rest) ← scanKey chars
      let rest ← exactly '=' rest
      let (value, rest) ← scanValue (depthLimit - 1) (skipSpaces rest)
      let rest ← lineEnd? rest
      let draft ← draft.define path key value
      return (draft, rest)

def scanLines (draft : Draft) (chars : List Char) : Option Draft :=
  match skipSpaces chars with
  | [] => some draft
  | start =>
      match scanLine draft start with
      | none => none
      | some (draft, rest) =>
          if rest.length < chars.length then scanLines draft rest else none
termination_by chars.length

/-- The mark that may stand in front of a document. -/
def byteOrderMark : Char := '\ufeff'

def parse? (text : String) : Option Entries :=
  let chars := match text.toList with
    | c :: rest => if c = byteOrderMark then rest else c :: rest
    | [] => []
  (scanLines {} chars).map fun draft => toEntries draft.root

end GatewayLogin.Toml
