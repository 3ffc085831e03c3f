import TransferProof.Text

/-!
# Disguised delimiters

Compatibility characters whose normal form holds one of the marks `/`, `?`, `#`, `@` or `:`, which
delimit the parts of a web address.
-/

namespace TransferProof.Text

/-- Code points outside ASCII whose compatibility decomposition holds a delimiter. -/
def disguisedDelimiters : List CodePoint := [
  0x2047, 0x2048, 0x2049, 0x2100, 0x2101, 0x2105, 0x2106, 0x2A74, 0xFE13, 0xFE16,
  0xFE55, 0xFE56, 0xFE5F, 0xFE6B, 0xFF03, 0xFF0F, 0xFF1A, 0xFF1F, 0xFF20]

def hidesDelimiter (t : Text) : Bool := t.any disguisedDelimiters.contains

end TransferProof.Text
