/-!
# White space

* `isBlank` is the class of white-space characters: the 25 of the Unicode property White_Space
  and the four information separators U+001C to U+001F.
* `isAsciiBlank` is that of ASCII white space alone.
* `trim` removes white space from both ends of a text, `trimBy` any class of characters.
-/

set_option autoImplicit false

namespace Protogen.Text

/-- White space. -/
def isBlank (c : Char) : Bool :=
  let n := c.toNat
  (0x09 ≤ n && n ≤ 0x0d) || (0x1c ≤ n && n ≤ 0x20) || n == 0x85 || n == 0xa0 || n == 0x1680 ||
    (0x2000 ≤ n && n ≤ 0x200a) || n == 0x2028 || n == 0x2029 || n == 0x202f || n == 0x205f ||
    n == 0x3000

/-- ASCII white space, without the information separators. -/
def isAsciiBlank (c : Char) : Bool := c == ' ' || (0x09 ≤ c.toNat && c.toNat ≤ 0x0d)

/-- The text without the characters of a class at its ends. -/
def trimBy (isDropped : Char → Bool) (text : List Char) : List Char :=
  ((text.dropWhile isDropped).reverse.dropWhile isDropped).reverse

/-- The text without the white space at its ends. -/
def trim (text : List Char) : List Char := trimBy isBlank text

end Protogen.Text
