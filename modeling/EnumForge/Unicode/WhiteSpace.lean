import EnumForge.Unicode.Ranges

namespace EnumForge.Unicode

/-- Code points with the property White_Space. -/
def whiteSpaceRanges : Ranges :=
  [(0x9, 0xd), (0x20, 0x20), (0x85, 0x85), (0xa0, 0xa0), (0x1680, 0x1680), (0x2000, 0x200a),
   (0x2028, 0x2029), (0x202f, 0x202f), (0x205f, 0x205f), (0x3000, 0x3000)]

/-- Blanks and line ends of every script. -/
def isWhiteSpace (c : Char) : Bool := whiteSpaceRanges.mem c

def trimEnd (s : List Char) : List Char := (s.reverse.dropWhile isWhiteSpace).reverse

def trim (s : List Char) : List Char := trimEnd (s.dropWhile isWhiteSpace)

end EnumForge.Unicode
