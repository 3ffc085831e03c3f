import TransferProof.Number.Decimal

/-!
# Amounts

An amount is written in XMR and counted in piconero, the twelfth decimal place. Products have at
most 28 significant digits; more are rounded to even.
-/

namespace TransferProof.Amount

def places : Nat := 12

/-- Significant digits of a product or quotient. -/
def precision : Nat := 28

def greatestPower : Int := 999999

inductive Fault where
  | notANumber (text : Text)
  | notPositive
  | tooManyPlaces
  /-- The amount in piconero is beyond all bounds. -/
  | tooLarge
  deriving DecidableEq, Repr

namespace Fault

/-- The words for a text that is no amount; an amount beyond all bounds has none. -/
def message? : Fault → Option Text
  | .notANumber text => some ("Not a number: " ++ text)
  | .notPositive => some "Amount must be positive"
  | .tooManyPlaces => some "XMR has at most 12 decimal places"
  | .tooLarge => none

end Fault

/-- The whole number that a coefficient with a power of ten comes to, unless it is beyond all
bounds; a fraction is cut off. -/
def whole (product : Nat × Int) : Except Fault Int :=
  if greatestPower < Decimal.adjusted product.1 product.2 then .error .tooLarge
  else if 0 ≤ product.2 then .ok (product.1 * Nat.pow 10 product.2.toNat : Nat)
  else .ok (product.1 / Nat.pow 10 (-product.2).toNat : Nat)

/-- A positive number of XMR as piconero, rounded to `precision` digits. -/
def piconero (n : Numeral) : Except Fault Int :=
  whole (Decimal.roundTo precision (n.coefficient * Nat.pow 10 places) n.exponent)

/-- Reads an amount in XMR as piconero. -/
def ofText (t : Text) : Except Fault Int :=
  match Decimal.ofText? t with
  | none => .error (.notANumber t)
  | some (.finite n) =>
    if n.negative ∨ n.coefficient = 0 then .error .notPositive
    else if n.exponent < -(places : Int) then .error .tooManyPlaces
    else piconero n
  | some _ => .error .notPositive

/-- The amount in XMR as it is shown: no zeros at the end after the point. -/
def toText (amount : Int) : Text :=
  let (coefficient, exponent) := Decimal.stripZeros amount.natAbs (-(places : Int)) places
  let (coefficient, exponent) := Decimal.roundTo precision coefficient exponent
  (if amount < 0 then "-" else "" : Text) ++ Decimal.scientificText coefficient exponent

example : toText 1250000000000 = Text.ofString "1.25" := by decide +kernel

example : toText 1 = Text.ofString "1E-12" := by decide +kernel

end TransferProof.Amount
