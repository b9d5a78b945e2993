/-
Strings of a TOML document in their four forms: basic or literal, on one line or on several.

Basic strings know escapes, literal ones do not.  In a string on several lines a first line end
does not count, each line end reads as a line feed, and up to two quotes may stand directly before
the closing three.
-/
import GatewayLogin.Toml.Scanner

namespace GatewayLogin.Toml

def quote : Char := '\x22'

def apostrophe : Char := '\x27'

def hexDigitValue? (c : Char) : Option Nat :=
  if '0' ≤ c ∧ c ≤ '9' then some (c.toNat - 48)
  else if 'a' ≤ c ∧ c ≤ 'f' then some (c.toNat - 87)
  else if 'A' ≤ c ∧ c ≤ 'F' then some (c.toNat - 55)
  else none

/-- The number that hexadecimal digits spell. -/
def hexValue? (digits : List Char) : Option Nat :=
  digits.foldlM (fun n c => (hexDigitValue? c).map (n * 16 + ·)) 0

/-- The character whose code point the first `count` characters spell. -/
def codePoint? (count : Nat) (chars : List Char) : Option Char := do
  let digits := chars.take count
  if digits.length = count then
    let n ← hexValue? digits
    if n.isValidChar then some (Char.ofNat n) else none
  else none

/-- The character that an escape stands for, and how many characters follow the backslash. -/
def escape? : List Char → Option (Char × Nat)
  | [] => none
  | c :: rest =>
      if c = 'b' then some ('\x08', 1)
      else if c = 't' then some ('\t', 1)
      else if c = 'n' then some ('\n', 1)
      else if c = 'f' then some ('\x0c', 1)
      else if c = 'r' then some ('\r', 1)
      else if c = quote then some (quote, 1)
      else if c = '\\' then some ('\\', 1)
      else if c = 'u' then (codePoint? 4 rest).map fun e => (e, 5)
      else if c = 'U' then (codePoint? 8 rest).map fun e => (e, 9)
      else none

/-- Whether a character may stand unescaped in a basic string. -/
def isBasicChar (c : Char) : Bool :=
  isCommentChar c && c != quote && c != '\\'

/-- Whether a character may stand in a literal string. -/
def isLiteralChar (c : Char) : Bool :=
  isCommentChar c && c != apostrophe

/-- Put a character in front of what a scanner found. -/
def prepend (c : Char) (found : List Char × List Char) : List Char × List Char :=
  (c :: found.1, found.2)

/-- The rest of a basic string on one line, after its opening quote. -/
def basicBody (chars : List Char) : Option (List Char × List Char) :=
  match chars with
  | [] => none
  | c :: rest =>
      if c = quote then some ([], rest)
      else if c = '\\' then
        match escape? rest with
        | some (e, count) => (basicBody (rest.drop count)).map (prepend e)
        | none => none
      else if isBasicChar c then (basicBody rest).map (prepend c)
      else none
termination_by chars.length
decreasing_by
  · simp only [List.length_drop, List.length_cons]
    omega
  · simp

/-- The rest of a literal string on one line, after its opening quote. -/
def literalBody : List Char → Option (List Char × List Char)
  | [] => none
  | c :: rest =>
      if c = apostrophe then some ([], rest)
      else if isLiteralChar c then (literalBody rest).map (prepend c)
      else none

/-- The end of a string on several lines: how many of a run of at least three quotes are content,
and what follows the closing three. -/
def closing (mark : Char) (chars : List Char) : List Char × List Char :=
  let extra := min ((chars.takeWhile (· == mark)).length - 3) 2
  (List.replicate extra mark, chars.drop (3 + extra))

/-- Whether a string on several lines ends here. -/
def closes (mark : Char) (chars : List Char) : Bool :=
  [mark, mark, mark].isPrefixOf chars

/-- The rest of a basic string on several lines.  A backslash at the end of a line joins it to the
next character that is neither blank nor a line end. -/
def basicLines (chars : List Char) : Option (List Char × List Char) :=
  match chars with
  | [] => none
  | c :: rest =>
      if closes quote (c :: rest) then some (closing quote (c :: rest))
      else if c = quote then (basicLines rest).map (prepend c)
      else if c = '\\' then
        match _h : newline? (skipSpaces rest) with
        | some after => basicLines (skipSpacesAndNewlines after)
        | none =>
            match escape? rest with
            | some (e, count) => (basicLines (rest.drop count)).map (prepend e)
            | none => none
      else
        match _h : newline? (c :: rest) with
        | some after => (basicLines after).map (prepend '\n')
        | none => if isBasicChar c then (basicLines rest).map (prepend c) else none
termination_by chars.length
decreasing_by
  · simp
  · have := skipSpacesAndNewlines_length after
    have := newline?_length _h
    have := skipSpaces_length rest
    simp only [List.length_cons]
    omega
  · simp only [List.length_drop, List.length_cons]
    omega
  · exact newline?_length _h
  · simp

/-- The rest of a literal string on several lines. -/
def literalLines (chars : List Char) : Option (List Char × List Char) :=
  match chars with
  | [] => none
  | c :: rest =>
      if closes apostrophe (c :: rest) then some (closing apostrophe (c :: rest))
      else if c = apostrophe then (literalLines rest).map (prepend c)
      else
        match _h : newline? (c :: rest) with
        | some after => (literalLines after).map (prepend '\n')
        | none => if isLiteralChar c then (literalLines rest).map (prepend c) else none
termination_by chars.length
decreasing_by
  · simp
  · exact newline?_length _h
  · simp

/-- Pass over one line end, if there is one. -/
def skipNewline (chars : List Char) : List Char :=
  (newline? chars).getD chars

def scanShortText : Scanner String
  | [] => none
  | c :: rest =>
      let body :=
        if c = quote then basicBody rest
        else if c = apostrophe then literalBody rest
        else none
      body.map fun found => (String.ofList found.1, found.2)

def scanText : Scanner String := fun chars =>
  if closes quote chars then
    (basicLines (skipNewline (chars.drop 3))).map fun found => (String.ofList found.1, found.2)
  else if closes apostrophe chars then
    (literalLines (skipNewline (chars.drop 3))).map fun found => (String.ofList found.1, found.2)
  else scanShortText chars

end GatewayLogin.Toml
