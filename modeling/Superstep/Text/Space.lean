/-!
# White space

The characters with the Unicode `White_Space` property, which is what trimming a text removes
from its ends and what the relaxed date reader skips between fields.
-/

namespace Superstep

namespace Text

/-- Whether a character has the Unicode `White_Space` property. -/
def isWhitespace (c : Char) : Bool :=
  let n := c.toNat
  (0x09 ≤ n && n ≤ 0x0D) || n == 0x20 || n == 0x85 || n == 0xA0 || n == 0x1680 ||
    (0x2000 ≤ n && n ≤ 0x200A) || n == 0x2028 || n == 0x2029 || n == 0x202F || n == 0x205F ||
    n == 0x3000

/-- The characters after the leading white space. -/
def dropLeadingSpace : List Char → List Char
  | [] => []
  | c :: cs => if isWhitespace c then dropLeadingSpace cs else c :: cs

/-- The text without white space at either end. -/
def trim (s : String) : String :=
  String.ofList (dropLeadingSpace (dropLeadingSpace s.toList).reverse).reverse

end Text

end Superstep
