import TransferProof.Number.Numeral
import TransferProof.Number.Rounding
import TransferProof.Text.Blank
import TransferProof.Text.Digit

/-!
# Decimal numbers

Exact decimal numbers as they are written, and rounding to a number of significant digits. A written
number keeps its exponent, so trailing zeros count as decimal places.
-/

namespace TransferProof

inductive Decimal where
  | nan
  | infinite (negative : Bool)
  | finite (numeral : Numeral)
  deriving DecidableEq, Repr

namespace Decimal

/-- How many decimal digits a number has; zero has one. -/
def digitCount (n : Nat) : Nat := (Nat.toDigits 10 n).length

/-- The power of ten of the first digit. -/
def adjusted (coefficient : Nat) (exponent : Int) : Int :=
  exponent + (digitCount coefficient - 1 : Nat)

/-- The greatest power of ten that a first digit may have. -/
def greatestPower : Int := 999999999999999999

/-- The least power of ten that a last digit may have. -/
def leastPower : Int := -1999999999999999997

def fits (n : Numeral) : Bool :=
  leastPower ≤ n.exponent &&
    if n.coefficient = 0 then n.exponent ≤ greatestPower
    else adjusted n.coefficient n.exponent ≤ greatestPower

/-- ASCII digits for the digits of all scripts, without underscores; elsewhere unchanged. -/
def simplified (t : Text) : Text :=
  (t.filter (· != 0x5F)).map fun c =>
    if c < 0x80 then c
    else match Text.digitValue? c with
      | some d => 0x30 + d
      | none => c

/-- The spellings of what is no number: a word, and digits that carry no meaning here. -/
def isNan (word : Text) : Bool :=
  [Text.ofString "nan", Text.ofString "snan"].any fun name =>
    name.isPrefixOf (Numeral.foldCase word) && (word.drop name.length).all Text.isAsciiDigit

/-- Reads a whole text as a decimal number; blanks around it and underscores do not count. -/
def ofText? (t : Text) : Option Decimal :=
  let body := simplified (Text.trim Text.isBlank t)
  let (negative, word) := Text.splitSign body
  if Numeral.isInfinity word then some (.infinite negative)
  else if isNan word then some .nan
  else
    match Numeral.ofText? body with
    | some n => if fits n then some (.finite n) else none
    | none => none

/-- The nearest coefficient of at most `precision` digits with its power of ten. -/
def roundTo (precision coefficient : Nat) (exponent : Int) : Nat × Int :=
  let surplus := digitCount coefficient - precision
  if surplus = 0 then (coefficient, exponent)
  else
    let rounded := roundDiv coefficient (Nat.pow 10 surplus)
    if rounded = Nat.pow 10 precision then (Nat.pow 10 (precision - 1), exponent + surplus + 1)
    else (rounded, exponent + surplus)

/-- Takes zeros off the end while the exponent is negative. -/
def stripZeros (coefficient : Nat) (exponent : Int) : (fuel : Nat) → Nat × Int
  | 0 => (coefficient, exponent)
  | fuel + 1 =>
    if exponent < 0 ∧ coefficient % 10 = 0 then stripZeros (coefficient / 10) (exponent + 1) fuel
    else (coefficient, exponent)

/-- Plain notation if the exponent is not positive and the first digit stands at most six places
after the point; else one digit before the point and a power of ten. -/
def scientificText (coefficient : Nat) (exponent : Int) : Text :=
  let digits := Text.ofNat coefficient
  let first := exponent + (digits.length - 1 : Nat)
  if exponent ≤ 0 ∧ -6 ≤ first then
    let places := (-exponent).toNat
    let padded := Text.zeroPad (places + 1) digits
    let whole := padded.take (padded.length - places)
    if places = 0 then whole else whole ++ 0x2E :: padded.drop (padded.length - places)
  else
    let tail := digits.drop 1
    digits.take 1 ++ (if tail = [] then [] else 0x2E :: tail)
      ++ (if first < 0 then "E-" else "E+" : Text) ++ Text.ofNat first.natAbs

end Decimal

end TransferProof
