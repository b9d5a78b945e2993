/-
Byte strings and their hexadecimal text.
-/

namespace GatewayLogin

abbrev Bytes := List UInt8

/-- The lowercase hexadecimal digit of a number below 16. -/
def hexDigit (n : Nat) : Char :=
  if n < 10 then Char.ofNat (48 + n) else Char.ofNat (87 + n)

/-- Two hexadecimal digits per byte, the high half first. -/
def Bytes.hex (bytes : Bytes) : String :=
  String.ofList (bytes.flatMap fun b => [hexDigit (b.toNat / 16), hexDigit (b.toNat % 16)])

end GatewayLogin
