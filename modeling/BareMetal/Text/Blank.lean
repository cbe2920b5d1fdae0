/-!
# White space

The characters with the Unicode property White_Space, and trimming by it.
-/

namespace BareMetal.Text

/-- Whether a character has the Unicode property White_Space. -/
def isBlank (c : Char) : Bool :=
  let code := c.toNat
  (9 ≤ code && code ≤ 13) || code == 0x20 || code == 0x85 || code == 0xa0 || code == 0x1680 ||
    (0x2000 ≤ code && code ≤ 0x200a) || code == 0x2028 || code == 0x2029 || code == 0x202f ||
    code == 0x205f || code == 0x3000

/-- A text without the white space at its front. -/
def trimFront (text : List Char) : List Char := text.dropWhile isBlank

/-- A text without the white space at its front and at its end. -/
def trim (text : List Char) : List Char :=
  (trimFront (trimFront text).reverse).reverse

end BareMetal.Text
