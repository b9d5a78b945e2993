/-
Numbers and dates of a TOML document.

An integer has 64 signed bits, whatever its base.  A float must not exceed the largest double.  A
date, a time or both are checked against the calendar and the clock.
-/
import GatewayLogin.Toml.Text
import GatewayLogin.Toml.Value

namespace GatewayLogin.Toml

/-- The digits that continue a numeral.  An underscore may stand between two digits. -/
def moreDigits (isDigit : Char → Bool) : List Char → List Char × List Char
  | '_' :: c :: rest =>
      if isDigit c then prepend c (moreDigits isDigit rest) else ([], '_' :: c :: rest)
  | c :: rest => if isDigit c then prepend c (moreDigits isDigit rest) else ([], c :: rest)
  | [] => ([], [])

def digits (isDigit : Char → Bool) : Scanner (List Char)
  | [] => none
  | c :: rest => if isDigit c then some (prepend c (moreDigits isDigit rest)) else none

def decimalValue (ds : List Char) : Nat :=
  ds.foldl (fun n c => n * 10 + (c.toNat - 48)) 0

/-- A sign: whether it is a minus, and what follows it. -/
def sign : List Char → Bool × List Char
  | '+' :: rest => (false, rest)
  | '-' :: rest => (true, rest)
  | chars => (false, chars)

/-- Decimal digits without a leading zero, or a single zero. -/
def plainDigits : Scanner (List Char)
  | '0' :: rest => some (['0'], rest)
  | chars => digits Char.isDigit chars

def decimal : Scanner (Bool × List Char) := fun chars =>
  let (negative, chars) := sign chars
  (plainDigits chars).map fun (ds, rest) => ((negative, ds), rest)

/-- An integer within its 64 bits. -/
def fitInteger? (negative : Bool) (n : Nat) : Option Value :=
  if negative then
    if n ≤ integerLimit then some (.scalar (.integer (-(n : Int)))) else none
  else if n < integerLimit then some (.scalar (.integer n)) else none

/-- An integer in a base other than ten, after its two-character mark. -/
def basedInteger (base : Nat) : Scanner Value := fun chars => do
  let isDigit := fun c => (hexDigitValue? c).any (· < base)
  let (ds, rest) ← digits isDigit chars
  let n := ds.foldl (fun n c => n * base + (hexDigitValue? c).getD 0) 0
  let value ← fitInteger? false n
  return (value, rest)

def scanInteger : Scanner Value
  | '0' :: 'x' :: rest => basedInteger 16 rest
  | '0' :: 'o' :: rest => basedInteger 8 rest
  | '0' :: 'b' :: rest => basedInteger 2 rest
  | chars => do
      let ((negative, ds), rest) ← decimal chars
      let value ← fitInteger? negative (decimalValue ds)
      return (value, rest)

/-- The least number that rounds beyond the largest double. -/
def floatLimit : Nat := (1 <<< 1024) - (1 <<< 970)

/-- Whether `n · 10 ^ exponent` stays below every infinity. -/
def isFinite (n : Nat) (exponent : Int) : Bool :=
  if n = 0 then true
  else if 0 ≤ exponent then exponent ≤ 400 && n * Nat.pow 10 exponent.toNat < floatLimit
  else
    let places := (-exponent).toNat
    (toString n).length ≤ places || n < floatLimit * Nat.pow 10 places

def exponent : Scanner Int
  | c :: rest =>
      if c = 'e' ∨ c = 'E' then do
        let (negative, chars) := sign rest
        let (ds, rest) ← digits Char.isDigit chars
        return (if negative then -(decimalValue ds : Int) else decimalValue ds, rest)
      else none
  | [] => none

def fraction : Scanner (List Char)
  | '.' :: rest => digits Char.isDigit rest
  | _ => none

def written (chars rest : List Char) : String :=
  String.ofList (chars.take (chars.length - rest.length))

/-- A float in digits.  It has a fraction, an exponent, or both. -/
def decimalFloat : Scanner Value := fun chars => do
  let ((negative, whole), rest) ← decimal chars
  let (parts, e, after) ←
    match fraction rest with
    | some (places, rest) =>
        match exponent rest with
        | some (e, rest) => some (places, e, rest)
        | none => some (places, 0, rest)
    | none => (exponent rest).map fun (e, rest) => ([], e, rest)
  if negative || isFinite (decimalValue (whole ++ parts)) (e - parts.length) then
    return (.float (written chars after), after)
  else none

/-- A float that is no number or infinite. -/
def specialFloat : Scanner Value := fun chars =>
  let (_, rest) := sign chars
  if ['i', 'n', 'f'].isPrefixOf rest || ['n', 'a', 'n'].isPrefixOf rest then
    let after := rest.drop 3
    some (.float (written chars after), after)
  else none

def fixedDigits (count : Nat) : Scanner Nat := fun chars =>
  let ds := chars.take count
  if ds.length = count && ds.all Char.isDigit then some (decimalValue ds, chars.drop count)
  else none

/-- A number of two digits in a range, both ends included. -/
def twoDigits (low high : Nat) : Scanner Nat := fun chars => do
  let (n, rest) ← fixedDigits 2 chars
  if low ≤ n ∧ n ≤ high then some (n, rest) else none

def exactly (c : Char) : List Char → Option (List Char)
  | [] => none
  | d :: rest => if d = c then some rest else none

def daysInMonth (year month : Nat) : Nat :=
  if month = 2 then
    if year % 4 = 0 ∧ (year % 100 ≠ 0 ∨ year % 400 = 0) then 29 else 28
  else if month = 4 ∨ month = 6 ∨ month = 9 ∨ month = 11 then 30
  else 31

def date? (chars : List Char) : Option (List Char) := do
  let (year, rest) ← fixedDigits 4 chars
  let rest ← exactly '-' rest
  let (month, rest) ← twoDigits 1 12 rest
  let rest ← exactly '-' rest
  let (_, rest) ← twoDigits 1 (daysInMonth year month) rest
  return rest

def time? (chars : List Char) : Option (List Char) := do
  let (_, rest) ← twoDigits 0 23 chars
  let rest ← exactly ':' rest
  let (_, rest) ← twoDigits 0 59 rest
  let rest ← exactly ':' rest
  let (_, rest) ← twoDigits 0 60 rest
  match rest with
  | '.' :: c :: more => if c.isDigit then some (more.dropWhile Char.isDigit) else some rest
  | _ => some rest

/-- Pass over an offset from universal time. -/
def offset? : List Char → Option (List Char)
  | [] => none
  | c :: rest =>
      if c = 'Z' ∨ c = 'z' then some rest
      else if c = '+' ∨ c = '-' then do
        let (_, rest) ← twoDigits 0 23 rest
        let rest ← exactly ':' rest
        let (_, rest) ← twoDigits 0 59 rest
        return rest
      else none

/-- Pass over the time of a day that a date names, if there is one. -/
def timeOfDate (chars : List Char) : List Char :=
  match chars with
  | c :: rest =>
      if c = 'T' ∨ c = 't' ∨ c = ' ' then
        match time? rest with
        | some rest => (offset? rest).getD rest
        | none => chars
      else chars
  | [] => chars

def scanDateTime : Scanner Value := fun chars =>
  let after := match date? chars with
    | some rest => some (timeOfDate rest)
    | none => time? chars
  after.map fun rest => (.dateTime (written chars rest), rest)

def scanNumber : Scanner Value := fun chars =>
  scanDateTime chars <|> decimalFloat chars <|> specialFloat chars <|> scanInteger chars

end GatewayLogin.Toml
