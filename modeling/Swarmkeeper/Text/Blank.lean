/-!
White space is the Unicode property White_Space: 25 characters in ten ranges. Trimming removes it
from both ends of a text.
-/

namespace Swarmkeeper.Text

/-- A character with the property White_Space. -/
def isBlank (c : Char) : Bool :=
  let n := c.toNat
  (0x09 ≤ n && n ≤ 0x0D) || n == 0x20 || n == 0x85 || n == 0xA0 || n == 0x1680 ||
    (0x2000 ≤ n && n ≤ 0x200A) || n == 0x2028 || n == 0x2029 || n == 0x202F || n == 0x205F ||
    n == 0x3000

/-- The text without white space at its two ends. -/
def trimChars (cs : List Char) : List Char :=
  ((cs.dropWhile isBlank).reverse.dropWhile isBlank).reverse

/-- The string without white space at its two ends. -/
def trim (s : String) : String :=
  String.ofList (trimChars s.toList)

end Swarmkeeper.Text
