import TransferProof.Text.Printable

/-!
# Quoted texts

How a text is shown inside a message. Single quotes stand around it, or double quotes if it holds a
single quote and no double one. The enclosing quote, the backslash and what cannot be printed are
written as escapes; everything else stands as it is.
-/

namespace TransferProof.Text

def quoteMark (t : Text) : CodePoint :=
  if t.contains 0x27 && !t.contains 0x22 then 0x22 else 0x27

def escaped (mark c : CodePoint) : Text :=
  if c = mark ∨ c = 0x5C then [0x5C, c]
  else if c = 0x09 then ofString "\\t"
  else if c = 0x0A then ofString "\\n"
  else if c = 0x0D then ofString "\\r"
  else if isPrintable c then [c]
  else if c ≤ 0xFF then ofString "\\x" ++ hexPadded 2 c
  else if c ≤ 0xFFFF then ofString "\\u" ++ hexPadded 4 c
  else ofString "\\U" ++ hexPadded 8 c

def quoted (t : Text) : Text :=
  let mark := quoteMark t
  mark :: t.flatMap (escaped mark) ++ [mark]

example : quoted "it's" = ofString "\"it's\"" := by decide

example : quoted [0x41, 0x0A, 0xD800] = ofString "'A\\n\\ud800'" := by decide +kernel

end TransferProof.Text
