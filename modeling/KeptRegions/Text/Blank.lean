import KeptRegions.Text.Basic
import KeptRegions.Text.Ranges

namespace KeptRegions

/-!
# Blank characters

The blank characters are the separators of Unicode 14 together with the ASCII and C1 controls that
count as space: tab to carriage return, the four information separators and next line. The
zero-width characters are not among them.
-/

/-- The blank code points. -/
def blankRanges : CodeRanges := [
    (0x9, 0xd), (0x1c, 0x20), (0x85, 0x85), (0xa0, 0xa0), (0x1680, 0x1680), (0x2000, 0x200a),
    (0x2028, 0x2029), (0x202f, 0x202f), (0x205f, 0x205f), (0x3000, 0x3000)]

/-- A blank character. -/
def isBlank (c : Char) : Bool :=
  blankRanges.has c

/-- The text without the blank characters at its two ends. -/
def Text.strip (s : Text) : Text :=
  ((s.dropWhile isBlank).reverse.dropWhile isBlank).reverse

end KeptRegions
