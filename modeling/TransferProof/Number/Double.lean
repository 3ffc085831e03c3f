import TransferProof.Number.Rounding
import TransferProof.Number.Numeral
import TransferProof.Text.Blank
import TransferProof.Text.Digit

/-!
# Doubles

Binary floating-point numbers of 53 bits, kept as sign, mantissa and power of two, so that their
arithmetic is arithmetic on whole numbers. Every finite value built here is the nearest one to a
fraction: `ofRatio` rounds once, to even on a tie.
-/

namespace TransferProof

/-- A double. A finite one is `± mantissa · 2 ^ exponent` with a mantissa below `2 ^ 53`, at least
`2 ^ 52` unless the exponent is the least one, `-1074`. -/
inductive Double where
  | nan
  | infinite (negative : Bool)
  | finite (negative : Bool) (mantissa : Nat) (exponent : Int)
  deriving DecidableEq, Repr

namespace Double

def zero (negative : Bool) : Double := .finite negative 0 (-1074)

/-- Largest `k` with `2 ^ k ≤ num / den`, for a positive fraction. -/
def floorLog2 (num den : Nat) : Int :=
  let k : Int := (num.log2 : Int) - den.log2
  let reached := if 0 ≤ k then den * Nat.pow 2 k.toNat ≤ num else den ≤ num * Nat.pow 2 (-k).toNat
  if reached then k else k - 1

/-- The double nearest to `± num / den`, where the denominator is positive. -/
def ofRatio (negative : Bool) (num den : Nat) : Double :=
  if num = 0 then zero negative
  else
    let exponent := max (floorLog2 num den - 52) (-1074)
    let mantissa :=
      if 0 ≤ exponent then roundDiv num (den * Nat.pow 2 exponent.toNat)
      else roundDiv (num * Nat.pow 2 (-exponent).toNat) den
    let (mantissa, exponent) :=
      if mantissa = Nat.pow 2 53 then (Nat.pow 2 52, exponent + 1) else (mantissa, exponent)
    if 971 < exponent then .infinite negative else .finite negative mantissa exponent

def ofInt (i : Int) : Double := ofRatio (decide (i < 0)) i.natAbs 1

def ofRat (q : Rat) : Double := ofRatio (decide (q.num < 0)) q.num.natAbs q.den

/-- The double nearest to `± coefficient · 10 ^ exponent`. Powers so large or small that the result
is infinite or zero are not multiplied out. -/
def ofNumeral (n : Numeral) : Double :=
  let scale := ((Nat.toDigits 10 n.coefficient).length : Int) + n.exponent
  if n.coefficient = 0 ∨ scale < -330 then zero n.negative
  else if 310 < scale then .infinite n.negative
  else if 0 ≤ n.exponent then ofRatio n.negative (n.coefficient * Nat.pow 10 n.exponent.toNat) 1
  else ofRatio n.negative n.coefficient (Nat.pow 10 (-n.exponent).toNat)

/-- The whole number toward zero; `none` if there is no such number. -/
def truncate? : Double → Option Int
  | .finite negative mantissa exponent =>
    let magnitude : Nat :=
      if 0 ≤ exponent then mantissa * Nat.pow 2 exponent.toNat
      else mantissa / Nat.pow 2 (-exponent).toNat
    some (if negative then -(magnitude : Int) else magnitude)
  | _ => none

def toRat? : Double → Option Rat
  | .finite negative mantissa exponent =>
    let magnitude : Rat :=
      if 0 ≤ exponent then (mantissa * Nat.pow 2 exponent.toNat : Nat)
      else (mantissa : Rat) / (Nat.pow 2 (-exponent).toNat : Nat)
    some (if negative then -magnitude else magnitude)
  | _ => none

/-- The sign is a minus; a NaN has none. -/
def isNegative : Double → Bool
  | .nan => false
  | .infinite negative => negative
  | .finite negative _ _ => negative

def neg : Double → Double
  | .nan => .nan
  | .infinite negative => .infinite (!negative)
  | .finite negative mantissa exponent => .finite (!negative) mantissa exponent

/-- The double nearest to the sum. Of a sum that is zero only two terms with a minus make a zero
with a minus, and opposite infinities have no sum. -/
def add (x y : Double) : Double :=
  match x.toRat?, y.toRat? with
  | some a, some b =>
    let sum := a + b
    if sum.num = 0 then zero (x.isNegative && y.isNegative) else ofRat sum
  | some _, none => y
  | none, some _ => x
  | none, none => if x = y then x else .nan

def sub (x y : Double) : Double := x.add y.neg

instance : Neg Double := ⟨neg⟩

instance : Add Double := ⟨add⟩

instance : Sub Double := ⟨sub⟩

def isZero : Double → Bool
  | .finite _ mantissa _ => mantissa == 0
  | _ => false

/-- The 64 bits of the interchange format: sign, eleven bits of exponent, 52 of fraction. -/
def toBits : Double → Nat
  | .nan => 0x7FF8 * Nat.pow 2 48
  | .infinite negative => signBit negative + 0x7FF * Nat.pow 2 52
  | .finite negative mantissa exponent =>
    signBit negative +
      (if mantissa < Nat.pow 2 52 then mantissa
       else (exponent + 1075).toNat * Nat.pow 2 52 + (mantissa - Nat.pow 2 52))
where
  /-- The highest bit is set below zero. -/
  signBit (negative : Bool) : Nat := if negative then Nat.pow 2 63 else 0

/-- ASCII digits for the digits of all scripts and spaces for blanks, elsewhere unchanged. -/
def simplified (t : Text) : Text := t.map fun c =>
  if c < 0x7F then c
  else match Text.digitValue? c with
    | some d => 0x30 + d
    | none => if Text.isBlank c then 0x20 else c

/-- Takes out the underscores; `none` if one does not stand between two digits. -/
def withoutUnderscores (before : CodePoint) : Text → Option Text
  | [] => some []
  | 0x5F :: c :: rest =>
    if Text.isAsciiDigit before && Text.isAsciiDigit c then
      (withoutUnderscores c rest).map (c :: ·)
    else none
  | c :: rest =>
    if c = 0x5F then none else (withoutUnderscores c rest).map (c :: ·)

/-- Reads a whole text as a double: blanks around it, digits of any script, single underscores
between digits, a numeral, an infinity or a NaN. -/
def ofText? (t : Text) : Option Double :=
  match withoutUnderscores 0 (Text.trim Text.isAsciiBlank (simplified t)) with
  | none => none
  | some body =>
    let (negative, word) := Text.splitSign body
    if Numeral.isInfinity word then some (.infinite negative)
    else if Numeral.foldCase word == "nan" then some .nan
    else (Numeral.ofText? body).map ofNumeral

example : ofText? "-1_0.25e1" = some (ofRatio true 205 2) := by decide +kernel

example : (ofRatio false 1 10).toBits = 0x3FB999999999999A := by decide +kernel

example : (ofRatio false 1 10 + ofRatio false 1 5).toBits = 0x3FD3333333333334 := by decide +kernel

example : ofInt 43200 - ofRatio true 3 1000000000000 = ofInt 43200 := by decide +kernel

end Double

end TransferProof
