import LogShipper.Text.CodePoint

/-!
# Blank characters

Trimming takes off the white space of Unicode together with the four information separators
U+001C to U+001F.  The byte order mark and the zero-width space are no blanks.
-/

namespace LogShipper

def CodePoint.isBlank (c : CodePoint) : Bool :=
  let n := c.value
  (0x09 ≤ n && n ≤ 0x0D) || (0x1C ≤ n && n ≤ 0x20) || n == 0x85 || n == 0xA0 || n == 0x1680 ||
    (0x2000 ≤ n && n ≤ 0x200A) || n == 0x2028 || n == 0x2029 || n == 0x202F || n == 0x205F ||
    n == 0x3000

namespace Text

def dropBlanks (t : Text) : Text :=
  t.dropWhile CodePoint.isBlank

/-- The text without the blanks at its two ends. -/
def trim (t : Text) : Text :=
  (dropBlanks (dropBlanks t).reverse).reverse

def isBlank (t : Text) : Bool :=
  t.all CodePoint.isBlank

end Text

end LogShipper
