/-
Scanners, and what separates the tokens of a TOML document: blanks, comments and line ends.
-/

namespace GatewayLogin.Toml

/-- Takes a value off the front of a text, if the text begins with one. -/
abbrev Scanner (α : Type) := List Char → Option (α × List Char)

/-- Space and tab. -/
def isSpace (c : Char) : Bool :=
  c == ' ' || c == '\t'

def skipSpaces (chars : List Char) : List Char :=
  chars.dropWhile isSpace

theorem skipSpaces_length (chars : List Char) : (skipSpaces chars).length ≤ chars.length :=
  (List.dropWhile_sublist _).length_le

/-- Whether a character may stand in a comment: tab, and whatever is no control. -/
def isCommentChar (c : Char) : Bool :=
  c == '\t' || (0x20 ≤ c.toNat && c.toNat ≠ 0x7F)

/-- Pass over one line end: a line feed, or a carriage return with one. -/
def newline? : List Char → Option (List Char)
  | '\n' :: rest => some rest
  | '\r' :: '\n' :: rest => some rest
  | _ => none

def skipComment : List Char → List Char
  | '#' :: rest => rest.dropWhile isCommentChar
  | chars => chars

/-- Pass over the end of a line: spaces, perhaps a comment, and a line end or the end of the
text. -/
def lineEnd? (chars : List Char) : Option (List Char) :=
  match skipComment (skipSpaces chars) with
  | [] => some []
  | chars => newline? chars

/-- Pass over spaces, line ends and comments.  What stops inside a comment is no line end, so
nothing can follow there. -/
def skipLines (inComment : Bool) : List Char → List Char
  | '\n' :: rest => skipLines false rest
  | '\r' :: '\n' :: rest => skipLines false rest
  | c :: rest =>
      if inComment then
        if isCommentChar c then skipLines true rest else c :: rest
      else if isSpace c then skipLines false rest
      else if c == '#' then skipLines true rest
      else c :: rest
  | [] => []

def skipSpacesAndNewlines : List Char → List Char
  | '\n' :: rest => skipSpacesAndNewlines rest
  | '\r' :: '\n' :: rest => skipSpacesAndNewlines rest
  | c :: rest => if isSpace c then skipSpacesAndNewlines rest else c :: rest
  | [] => []

theorem skipSpacesAndNewlines_length (chars : List Char) :
    (skipSpacesAndNewlines chars).length ≤ chars.length := by
  fun_induction skipSpacesAndNewlines chars <;> simp <;> omega

theorem newline?_length {chars rest : List Char} (h : newline? chars = some rest) :
    rest.length < chars.length := by
  unfold newline? at h
  split at h <;> cases h <;> simp only [List.length_cons] <;> omega

end GatewayLogin.Toml
