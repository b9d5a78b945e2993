/-
Spans of time, exact to the nanosecond, and the text in which a span is described.
-/

namespace GatewayLogin

structure Duration where
  nanoseconds : Nat
deriving Repr, DecidableEq, Inhabited

namespace Duration

def ofMicroseconds (n : Nat) : Duration := ⟨n * 1000⟩

def ofMilliseconds (n : Nat) : Duration := ⟨n * 1000000⟩

def ofSeconds (n : Nat) : Duration := ⟨n * 1000000000⟩

def milliseconds (span : Duration) : Nat := span.nanoseconds / 1000000

def seconds (span : Duration) : Nat := span.nanoseconds / 1000000000

/-- The milliseconds after which a clock that ticks in milliseconds sees a span elapsed. -/
def ticks (span : Duration) : Nat := (span.nanoseconds + 999999) / 1000000

/-- The decimal digits of a number below `10 ^ places`, all `places` of them. -/
def paddedDigits : (places : Nat) → Nat → List Char
  | 0, _ => []
  | places + 1, n => paddedDigits places (n / 10) ++ [Nat.digitChar (n % 10)]

/-- A number of units and `10 ^ places`-ths of one, without zeros at the end. -/
def decimalText (whole places fraction : Nat) : String :=
  let digits := ((paddedDigits places fraction).reverse.dropWhile (· == '0')).reverse
  if digits.isEmpty then toString whole else toString whole ++ "." ++ String.ofList digits

/-- The text of a span, in the largest unit of which it holds at least one. -/
def describe (span : Duration) : String :=
  let n := span.nanoseconds
  if 1000000000 ≤ n then decimalText (n / 1000000000) 9 (n % 1000000000) ++ "s"
  else if 1000000 ≤ n then decimalText (n / 1000000) 6 (n % 1000000) ++ "ms"
  else if 1000 ≤ n then decimalText (n / 1000) 3 (n % 1000) ++ "µs"
  else toString n ++ "ns"

example : describe (ofMilliseconds 2500) = "2.5s" := by decide +kernel

example : describe (ofMilliseconds 100) = "100ms" := by decide +kernel

end Duration

end GatewayLogin
