/-
# Text.Blank -- white space and its removal at the ends of a text

`isBlank` is the Unicode property White_Space, and `trim` takes the blanks off
both ends.
-/

namespace Cqrs.Text

set_option autoImplicit false

/-- The character is white space in the sense of the Unicode standard. -/
def isBlank (c : Char) : Bool :=
  let n := c.toNat
  (9 ≤ n && n ≤ 13) || n == 0x20 || n == 0x85 || n == 0xA0 || n == 0x1680 ||
    (0x2000 ≤ n && n ≤ 0x200A) || n == 0x2028 || n == 0x2029 || n == 0x202F ||
    n == 0x205F || n == 0x3000

def trim (text : List Char) : List Char :=
  ((text.dropWhile isBlank).reverse.dropWhile isBlank).reverse

end Cqrs.Text
