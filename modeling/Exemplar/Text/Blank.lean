import Exemplar.Text.CodeRange

namespace Exemplar.Text

/-- The code points with the White_Space property, in increasing order. -/
def blankRanges : List CodeRange := [
  (0x9, 0xD), (0x20, 0x20), (0x85, 0x85), (0xA0, 0xA0), (0x1680, 0x1680), (0x2000, 0x200A),
  (0x2028, 0x2029), (0x202F, 0x202F), (0x205F, 0x205F), (0x3000, 0x3000)]

/-- White space of any kind, line ends and no-break blanks included. -/
def isBlank (c : Char) : Bool := inRanges blankRanges c

def trimBlank (cs : List Char) : List Char :=
  ((cs.dropWhile isBlank).reverse.dropWhile isBlank).reverse

end Exemplar.Text
