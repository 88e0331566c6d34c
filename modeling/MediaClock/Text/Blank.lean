/-!
# Blank text

The white space of Unicode, at the ends of a text or all through it.
-/

namespace MediaClock.Text

/-- The ranges of code points of white space (`White_Space`), in ascending order. -/
def blankRanges : List (Nat × Nat) := [
    (0x9, 0xd), (0x20, 0x20), (0x85, 0x85), (0xa0, 0xa0), (0x1680, 0x1680), (0x2000, 0x200a),
    (0x2028, 0x2029), (0x202f, 0x202f), (0x205f, 0x205f), (0x3000, 0x3000)]

/-- Whether a character is white space. -/
def isBlankChar (c : Char) : Bool :=
  blankRanges.any fun (first, last) => first ≤ c.toNat && c.toNat ≤ last

/-- A text without the white space at its ends. -/
def trimmed (chars : List Char) : List Char :=
  ((chars.dropWhile isBlankChar).reverse.dropWhile isBlankChar).reverse

/-- Whether a text holds nothing but white space. -/
def isBlank (text : String) : Bool := text.toList.all isBlankChar

end MediaClock.Text
