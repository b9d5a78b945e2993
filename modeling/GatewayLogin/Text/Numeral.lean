/-
Decimal numerals of bounded numbers.

A numeral is an optional plus sign and decimal digits.  Characters are taken from left to right and
the first that is no digit, or makes the number too large, decides how reading fails.
-/

namespace GatewayLogin.Text

inductive NumeralProblem where
  | empty
  | invalidDigit
  | tooLarge
deriving Repr, DecidableEq

def NumeralProblem.message : NumeralProblem → String
  | .empty => "cannot parse integer from empty string"
  | .invalidDigit => "invalid digit found in string"
  | .tooLarge => "number too large to fit in target type"

/-- Append decimal digits to a number that stays below `limit`. -/
def appendDigits (limit : Nat) : Nat → List Char → Except NumeralProblem Nat
  | n, [] => .ok n
  | n, c :: rest =>
      if c.isDigit then
        let next := n * 10 + (c.toNat - 48)
        if next < limit then appendDigits limit next rest else .error .tooLarge
      else .error .invalidDigit

/-- The number below `limit` that a text spells. -/
def parseNumeral (limit : Nat) (text : String) : Except NumeralProblem Nat :=
  match text.toList with
  | [] => .error .empty
  | ['+'] => .error .invalidDigit
  | '+' :: digits => appendDigits limit 0 digits
  | digits => appendDigits limit 0 digits

end GatewayLogin.Text
