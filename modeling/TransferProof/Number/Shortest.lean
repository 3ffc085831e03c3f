import TransferProof.Number.Double

/-!
# Shortest text of a double

The fewest decimal digits that read back as the same double and, among those, the nearest to it.
The reals that round to a double form an interval around it, whose ends belong to it when the
mantissa is even. On each decimal grid only the two neighbours of the double can be the nearest,
so trying them for one, two, … seventeen digits finds the digits.
-/

namespace TransferProof.Double

/-- A fraction with its interval of rounding, all over one denominator. -/
structure Neighbourhood where
  value : Nat
  low : Nat
  high : Nat
  den : Nat
  /-- The ends of the interval belong to it. -/
  closed : Bool

/-- The reals that round to `mantissa · 2 ^ exponent`. Below a power of two doubles are twice as
dense, so there the lower half is half as wide. -/
def neighbourhood (mantissa : Nat) (exponent : Int) : Neighbourhood :=
  let lower := if mantissa = Nat.pow 2 52 ∧ -1074 < exponent then 1 else 2
  let scale := if 0 ≤ exponent then Nat.pow 2 exponent.toNat else 1
  let den := if 0 ≤ exponent then 4 else 4 * Nat.pow 2 (-exponent).toNat
  { value := 4 * mantissa * scale
    low := (4 * mantissa - lower) * scale
    high := (4 * mantissa + 2) * scale
    den := den
    closed := mantissa % 2 == 0 }

def Neighbourhood.holds (n : Neighbourhood) (digits : Nat) (power : Int) : Bool :=
  let point := if 0 ≤ power then digits * Nat.pow 10 power.toNat * n.den else digits * n.den
  let unit := if 0 ≤ power then 1 else Nat.pow 10 (-power).toNat
  if n.closed then n.low * unit ≤ point && point ≤ n.high * unit
  else n.low * unit < point && point < n.high * unit

/-- The neighbour on the grid of multiples of `10 ^ power` that reads back: of two the nearer, on a
tie the even one. -/
def Neighbourhood.onGrid? (n : Neighbourhood) (power : Int) : Option Nat :=
  let num := if 0 ≤ power then n.value else n.value * Nat.pow 10 (-power).toNat
  let den := if 0 ≤ power then n.den * Nat.pow 10 power.toNat else n.den
  let below := num / den
  let nearest := roundDiv num den
  let other := if nearest = below then below + 1 else below
  if n.holds nearest power then some nearest
  else if n.holds other power then some other
  else none

/-- Digits and power of ten of the coarsest grid with a neighbour that reads back. The grids have
`17 - left`, … 17 digits, where the double lies below `10 ^ magnitude`. -/
def Neighbourhood.search (n : Neighbourhood) (magnitude : Int) : (left : Nat) → Nat × Int
  | 0 =>
    let power := magnitude - 17
    ((n.onGrid? power).getD 0, power)
  | left + 1 =>
    let power := magnitude - (16 - left : Nat)
    match n.onGrid? power with
    | some digits => (digits, power)
    | none => n.search magnitude left

/-- The least `p` with `num / den < 10 ^ p`, found from an upper bound of it. -/
def decimalMagnitude (num den : Nat) (upper : Int) : (fuel : Nat) → Int
  | 0 => upper
  | fuel + 1 =>
    let p := upper - 1
    let below := if 0 ≤ p then num < den * Nat.pow 10 p.toNat else num * Nat.pow 10 (-p).toNat < den
    if below then decimalMagnitude num den p fuel else upper

/-- Shortest digits and the power of ten after the last of them, of a positive finite double. -/
def shortest (mantissa : Nat) (exponent : Int) : Nat × Int :=
  let n := neighbourhood mantissa exponent
  let bits := floorLog2 n.value n.den
  let upper := bits * 30103 / 100000 + 2
  n.search (decimalMagnitude n.value n.den upper 4) 16

def dropZeros (digits : Nat) (power : Int) : (fuel : Nat) → Nat × Int
  | 0 => (digits, power)
  | fuel + 1 =>
    if digits % 10 = 0 ∧ digits ≠ 0 then dropZeros (digits / 10) (power + 1) fuel
    else (digits, power)

/-- Positional notation from `0.0001` up to below `10 ^ 16`, with at least one decimal place;
elsewhere one digit before the point and an exponent of at least two digits. -/
def magnitudeText (mantissa : Nat) (exponent : Int) : Text :=
  if mantissa = 0 then "0.0"
  else
    let (digits, power) := shortest mantissa exponent
    let (digits, power) := dropZeros digits power 20
    let shown := Text.ofNat digits
    let point : Int := shown.length + power
    if -4 < point ∧ point ≤ 16 then
      if point ≤ 0 then ("0." : Text) ++ List.replicate (-point).toNat 0x30 ++ shown
      else if shown.length ≤ point.toNat then
        shown ++ List.replicate (point.toNat - shown.length) 0x30 ++ (".0" : Text)
      else shown.take point.toNat ++ ("." : Text) ++ shown.drop point.toNat
    else
      let places := shown.drop 1
      let leading := shown.take 1 ++ (if places = [] then [] else ("." : Text) ++ places)
      let e := point - 1
      leading ++ (if e < 0 then "e-" else "e+" : Text) ++ Text.zeroPad 2 (Text.ofNat e.natAbs)

/-- The text of a double, where the caller says how infinity and NaN are spelled. -/
def toText (infinity nan : Text) : Double → Text
  | .nan => nan
  | .infinite negative => (if negative then "-" else "" : Text) ++ infinity
  | .finite negative mantissa exponent =>
    (if negative then "-" else "" : Text) ++ magnitudeText mantissa exponent

end TransferProof.Double
