/-
Blank characters: the code points with the Unicode property White_Space.
-/

namespace GatewayLogin.Text

def isBlank (c : Char) : Bool :=
  let n := c.toNat
  (9 ≤ n && n ≤ 13) || n == 0x20 || n == 0x85 || n == 0xA0 || n == 0x1680
    || (0x2000 ≤ n && n ≤ 0x200A) || n == 0x2028 || n == 0x2029 || n == 0x202F
    || n == 0x205F || n == 0x3000

/-- Drop blanks at both ends of a character list. -/
def trimList (chars : List Char) : List Char :=
  ((chars.dropWhile isBlank).reverse.dropWhile isBlank).reverse

def trim (text : String) : String :=
  String.ofList (trimList text.toList)

example : ∀ n < 128, (Char.ofNat n).isWhitespace → isBlank (Char.ofNat n) := by decide

end GatewayLogin.Text
