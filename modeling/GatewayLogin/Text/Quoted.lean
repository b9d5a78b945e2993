/-
Quoted text: how a text is shown inside a message or a description.

The text stands between double quotes.  Quotes, backslashes and the common controls are written
with a backslash, and every character without a glyph of its own by its code point.
-/
import GatewayLogin.Text.Unprintable

namespace GatewayLogin.Text

/-- The lowercase hexadecimal numeral of a code point, without leading zeros. -/
def codePoint (c : Char) : String :=
  String.ofList (Nat.toDigits 16 c.toNat)

def quotedChar (c : Char) : String :=
  if c = '\x00' then "\\0"
  else if c = '\t' then "\\t"
  else if c = '\r' then "\\r"
  else if c = '\n' then "\\n"
  else if c = '\\' then "\\\\"
  else if c = '\x22' then "\\\x22"
  else if isUnprintable c then "\\u\x7b" ++ codePoint c ++ "\x7d"
  else c.toString

def quoted (text : String) : String :=
  "\x22" ++ String.join (text.toList.map quotedChar) ++ "\x22"

end GatewayLogin.Text
