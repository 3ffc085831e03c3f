import TransferProof.Text

/-!
# Numerals

The written form shared by decimal amounts and doubles: a sign, digits with at most one point and
at least one digit, and an optional power of ten. Reading keeps the exact value and the written
exponent, so trailing zeros still count.
-/

namespace TransferProof

/-- A signed coefficient times a power of ten. -/
structure Numeral where
  negative : Bool
  coefficient : Nat
  exponent : Int
  deriving DecidableEq, Repr

namespace Numeral

/-- The power of ten at the end of a numeral: nothing, or a mark, a sign and digits to the end. -/
def exponent? : Text → Option Int
  | [] => some 0
  | mark :: rest =>
    if mark = 0x65 ∨ mark = 0x45 then
      let (negative, digits) := Text.splitSign rest
      if digits ≠ [] ∧ digits.all Text.isAsciiDigit then
        some (if negative then -(Text.toNat digits : Int) else Text.toNat digits)
      else none
    else none

def ofText? (t : Text) : Option Numeral :=
  let (negative, body) := Text.splitSign t
  let whole := body.takeWhile Text.isAsciiDigit
  let afterWhole := body.dropWhile Text.isAsciiDigit
  let (places, tail) :=
    match afterWhole with
    | 0x2E :: rest => (rest.takeWhile Text.isAsciiDigit, rest.dropWhile Text.isAsciiDigit)
    | rest => ([], rest)
  let digits := whole ++ places
  if digits = [] then none
  else (exponent? tail).map fun e => ⟨negative, Text.toNat digits, e - places.length⟩

def foldCase (t : Text) : Text := t.map fun c => if 0x41 ≤ c ∧ c ≤ 0x5A then c + 0x20 else c

def isInfinity (t : Text) : Bool := foldCase t == "inf" || foldCase t == "infinity"

end Numeral

end TransferProof
