import CauseLint.Text.Ranges

/-!
# Blank characters

The characters that count as white space: they separate names in a suppression comment and are
trimmed off the ends of a shown source line.
-/

namespace CauseLint

/-- The code points of blank characters. -/
def blankRanges : Ranges :=
  [(0x9, 0xd), (0x1c, 0x20), (0x85, 0x85), (0xa0, 0xa0), (0x1680, 0x1680), (0x2000, 0x200a),
   (0x2028, 0x2029), (0x202f, 0x202f), (0x205f, 0x205f), (0x3000, 0x3000)]

/-- Whether a character is white space. -/
def isBlank (c : Char) : Bool := blankRanges.contains c

/-- Text without the characters at both ends that satisfy `p`. -/
def trimWhere (p : Char → Bool) (cs : List Char) : List Char :=
  ((cs.dropWhile p).reverse.dropWhile p).reverse

/-- Text without white space at both ends. -/
def trimBlank (s : String) : String := String.ofList (trimWhere isBlank s.toList)

end CauseLint
