import MatlabTidy.Text.Ranges

/-!
# Blanks

The white space of a line: the ASCII controls that move the cursor, the information separators,
the space and the wider spaces of Unicode. Blanks separate tokens, form the indentation and are
trimmed from the ends of a text.
-/

namespace MatlabTidy.Text

/-- The code points that count as white space. -/
def blankRanges : Ranges :=
  [(0x9, 0xd), (0x1c, 0x20), (0x85, 0x85), (0xa0, 0xa0), (0x1680, 0x1680), (0x2000, 0x200a),
   (0x2028, 0x2029), (0x202f, 0x202f), (0x205f, 0x205f), (0x3000, 0x3000)]

/-- White space. -/
def isBlank (c : Char) : Bool := blankRanges.contains c.toNat

/-- The text without the blanks at its start. -/
def trimLeft (text : List Char) : List Char := text.dropWhile isBlank

/-- The text without the blanks at its end. -/
def trimRight (text : List Char) : List Char := (text.reverse.dropWhile isBlank).reverse

/-- The text without the blanks at either end. -/
def trim (text : List Char) : List Char := trimLeft (trimRight text)

end MatlabTidy.Text
