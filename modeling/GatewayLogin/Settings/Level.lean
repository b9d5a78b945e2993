/-
Names of log levels: the five words in any mix of cases, or their numbers from 1 for the weightiest
to 5.
-/
import GatewayLogin.LogEntry
import GatewayLogin.Text.Numeral

namespace GatewayLogin

/-- The text in lowercase, as far as it is ASCII. -/
def lowercase (text : String) : String :=
  String.ofList (text.toList.map Char.toLower)

def LogLevel.ofText? (text : String) : Option LogLevel :=
  match Text.parseNumeral UInt64.size text with
  | .ok n => if n = 0 then none else LogLevel.all[n - 1]?
  | .error _ => LogLevel.all.find? fun level => lowercase text == level.name

/-- What is said of a text that names no level. -/
def LogLevel.expectation : String :=
  "error parsing level: expected one of \x22error\x22, \x22warn\x22, \x22info\x22, \x22debug\x22, "
    ++ "\x22trace\x22, or a number 1-5"

example : LogLevel.ofText? "+2" = some .warn := by decide +kernel

example : LogLevel.ofText? "Error" = some .error := by decide +kernel

end GatewayLogin
