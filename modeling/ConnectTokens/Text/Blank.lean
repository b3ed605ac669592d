/-!
# White space around a value

The characters that count as white space at the ends of a written value, which
are those of the Unicode property `White_Space`, and the text without them.

## Main Definitions

* `isBlank`: the characters of the property.
* `trim`: a text without the white space at both ends.
-/

namespace ConnectTokens.Text

/-- The characters of the Unicode property `White_Space`. -/
def isBlank (c : Char) : Bool :=
  let n := c.toNat
  (0x09 ≤ n && n ≤ 0x0D) || n == 0x20 || n == 0x85 || n == 0xA0 || n == 0x1680 ||
    (0x2000 ≤ n && n ≤ 0x200A) || n == 0x2028 || n == 0x2029 || n == 0x202F ||
    n == 0x205F || n == 0x3000

/-- A text without the white space at its end. -/
def trimEnd (text : List Char) : List Char := (text.reverse.dropWhile isBlank).reverse

/-- A text without the white space at both ends. -/
def trim (text : List Char) : List Char := trimEnd (text.dropWhile isBlank)

end ConnectTokens.Text
