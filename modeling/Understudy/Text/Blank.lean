import Understudy.Text.Ranges

/-!
# Blank characters

The characters with the Unicode property White_Space. They may stand between any two
parts of an annotation.
-/

namespace Understudy

/-- The code points of the property White_Space, as of version 17.0 of the standard. -/
def blankRanges : Ranges where
  list := [(0x9, 0xd), (0x20, 0x20), (0x85, 0x85), (0xa0, 0xa0), (0x1680, 0x1680), (0x2000, 0x200a),
    (0x2028, 0x2029), (0x202f, 0x202f), (0x205f, 0x205f), (0x3000, 0x3000)]

/-- Whether the character is blank: it separates words and has no form of its own. -/
def isBlank (c : Char) : Bool :=
  blankRanges.contains c.toNat

/-- The text from its first character that is not blank. -/
def skipBlanks (text : List Char) : List Char :=
  text.dropWhile isBlank

end Understudy
