import TransferProof.Text

/-!
# Texts as output

What is printed is written in UTF-8, which has no form for a surrogate by itself. A text that holds
one cannot be written at all, and its first run of surrogates is what is complained about. Only
where errors are printed an escape is written for each surrogate instead.
-/

namespace TransferProof.Text

def isSurrogate (c : CodePoint) : Bool := 0xD800 ≤ c && c ≤ 0xDFFF

/-- The first run of surrogates in a text that cannot be written. -/
structure Surrogates where
  position : Nat
  first : CodePoint
  /-- How many follow the first one. -/
  more : Nat
  deriving DecidableEq, Repr

def surrogates? (t : Text) : Option Surrogates :=
  match t.dropWhile (!isSurrogate ·) with
  | [] => none
  | first :: rest =>
    some {
      position := (t.takeWhile (!isSurrogate ·)).length
      first := first
      more := (rest.takeWhile isSurrogate).length }

def surrogateEscape (c : CodePoint) : Text := ofString "\\u" ++ hexPadded 4 c

/-- The words for a text that cannot be written. A single surrogate is shown. -/
def Surrogates.message (s : Surrogates) : Text :=
  let which : Text :=
    if s.more = 0 then
      ofString " '" ++ surrogateEscape s.first ++ ofString "' in position " ++ ofNat s.position
    else
      ofString "s in position " ++ ofNat s.position ++ ofString "-" ++ ofNat (s.position + s.more)
  ofString "'utf-8' codec can't encode character" ++ which ++ ofString ": surrogates not allowed"

/-- What is written where errors are printed. -/
def surrogatesEscaped (t : Text) : Text :=
  t.flatMap fun c => if isSurrogate c then surrogateEscape c else [c]

example : (surrogates? [0x41, 0xDCFF, 0x42]).map Surrogates.message =
    some "'utf-8' codec can't encode character '\\udcff' in position 1: surrogates not allowed" := by
  decide +kernel

example : (surrogates? [0xDCFE, 0xDCFF]).map Surrogates.message =
    some "'utf-8' codec can't encode characters in position 0-1: surrogates not allowed" := by
  decide +kernel

end TransferProof.Text
