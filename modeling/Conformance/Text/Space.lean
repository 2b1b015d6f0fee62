/-!
# Blank characters

* `isSpace` : the `White_Space` property;
* `trim` : a text without the blanks at its two ends.
-/

namespace Conformance.Text

/-- Whether a character has the `White_Space` property. -/
def isSpace (c : Char) : Bool :=
  let n := c.toNat
  (0x9 ≤ n && n ≤ 0xD) || n == 0x20 || n == 0x85 || n == 0xA0 || n == 0x1680 ||
    (0x2000 ≤ n && n ≤ 0x200A) || n == 0x2028 || n == 0x2029 || n == 0x202F || n == 0x205F ||
    n == 0x3000

/-- The characters between the first and the last one that is not blank. -/
def trimChars (cs : List Char) : List Char :=
  ((cs.dropWhile isSpace).reverse.dropWhile isSpace).reverse

/-- A text without blanks at its ends. -/
def trim (s : String) : String := String.ofList (trimChars s.toList)

end Conformance.Text
