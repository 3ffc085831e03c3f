import TransferProof.Text.Ranges

/-!
# Blank code points

Space separators together with the controls that separate words, lines and records. `isBlank` is
the class trimmed from addresses and amounts; numbers that are read as integers or doubles admit
around them only `isNumberBlank`, which leaves out the four ASCII record separators.
-/

namespace TransferProof.Text

def blankRanges : Ranges := [
    (0x9, 0xD), (0x1C, 0x20), (0x85, 0x85), (0xA0, 0xA0),
    (0x1680, 0x1680), (0x2000, 0x200A), (0x2028, 0x2029), (0x202F, 0x202F),
    (0x205F, 0x205F), (0x3000, 0x3000)]

/-- White space, line and paragraph separators, and the separators U+001C to U+001F. -/
def isBlank (c : CodePoint) : Bool := blankRanges.contains c

def isAsciiBlank (c : CodePoint) : Bool := c == 0x20 || (0x09 ≤ c && c ≤ 0x0D)

/-- What may stand around a number: ASCII white space and every blank outside ASCII. -/
def isNumberBlank (c : CodePoint) : Bool := isAsciiBlank c || (0x80 ≤ c && isBlank c)

end TransferProof.Text
