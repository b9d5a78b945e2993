/-
Writing sections of scalars as a TOML document.

A text is written in the plainest form that can hold it: basic on one line, literal on one line,
basic on several lines, literal on several lines, each without escapes; only a text that none of
these can hold is written with escapes.
-/
import GatewayLogin.Toml.Text
import GatewayLogin.Toml.Value

namespace GatewayLogin.Toml

/-- The length of the longest run of a character, given the length of the run so far and the
longest yet. -/
def longestRun (mark : Char) : (run best : Nat) → List Char → Nat
  | _, best, [] => best
  | run, best, c :: rest =>
      if c = mark then longestRun mark (run + 1) (max best (run + 1)) rest
      else longestRun mark 0 best rest

/-- Whether a character cannot stand in any form without an escape. -/
def needsEscape (c : Char) : Bool :=
  !isCommentChar c && c != '\n'

inductive TextForm where
  | basic
  | literal
  | basicLines
  | literalLines
deriving Repr, DecidableEq

/-- The plainest form that can hold a text. -/
def TextForm.choose (chars : List Char) : TextForm :=
  let plain := !chars.any needsEscape
  let backslash := chars.contains '\\'
  let lines := chars.contains '\n'
  let quotes := longestRun quote 0 0 chars
  let apostrophes := longestRun apostrophe 0 0 chars
  if plain && !backslash && quotes == 0 && !lines then .basic
  else if plain && apostrophes == 0 && !lines then .literal
  else if plain && !backslash && quotes ≤ 2 then .basicLines
  else if plain && apostrophes ≤ 2 then .literalLines
  else if lines then .basicLines
  else .basic

/-- The uppercase hexadecimal digit of a number below 16. -/
def upperHexDigit (n : Nat) : Char :=
  if n < 10 then Char.ofNat (48 + n) else Char.ofNat (55 + n)

def codePointEscape (c : Char) : List Char :=
  let n := c.toNat
  ['\\', 'u', '0', '0', upperHexDigit (n / 16 % 16), upperHexDigit (n % 16)]

/-- One character other than a quote inside a basic text. -/
def basicChar (lines : Bool) (c : Char) : List Char :=
  if c = '\x08' then ['\\', 'b']
  else if c = '\t' then ['\\', 't']
  else if c = '\n' then if lines then ['\n'] else ['\\', 'n']
  else if c = '\x0c' then ['\\', 'f']
  else if c = '\r' then ['\\', 'r']
  else if c = '\\' then ['\\', '\\']
  else if needsEscape c then codePointEscape c
  else [c]

/-- The characters of a basic text.  On several lines two quotes in a row may stand as they are. -/
def basicChars (lines : Bool) : (run : Nat) → List Char → List Char
  | _, [] => []
  | run, c :: rest =>
      if c = quote then
        if (if lines then 2 else 0) ≤ run then '\\' :: quote :: basicChars lines 0 rest
        else quote :: basicChars lines (run + 1) rest
      else basicChar lines c ++ basicChars lines 0 rest

/-- Put a mark on both sides of a body, with a line end first if the body has lines. -/
def enclose (mark : Char) (lines : Bool) (body : List Char) : List Char :=
  let edge := List.replicate 3 mark
  let start := if lines then edge ++ ['\n'] else edge
  start ++ body ++ edge

def TextForm.render (chars : List Char) : TextForm → List Char
  | .basic => quote :: basicChars false 0 chars ++ [quote]
  | .literal => apostrophe :: chars ++ [apostrophe]
  | .basicLines => enclose quote (chars.contains '\n') (basicChars true 0 chars)
  | .literalLines => enclose apostrophe (chars.contains '\n') chars

def renderText (text : String) : String :=
  String.ofList ((TextForm.choose text.toList).render text.toList)

def Scalar.render : Scalar → String
  | .text value => renderText value
  | .integer value => toString value
  | .boolean true => "true"
  | .boolean false => "false"

/-- A section: its header, and one line for each entry. -/
def Section.render (s : Section) : String :=
  "[" ++ s.name ++ "]\n"
    ++ String.join (s.entries.map fun e => e.1 ++ " = " ++ e.2.render ++ "\n")

/-- Sections with an empty line between them. -/
def render (sections : List Section) : String :=
  String.intercalate "\n" (sections.map Section.render)

end GatewayLogin.Toml
