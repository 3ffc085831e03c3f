import TransferProof.Number.Double

/-!
# Seconds

Times and spans of time in seconds. Between exact numbers of seconds arithmetic is exact. If one of
two numbers is in floating point, the other one is first rounded to floating point as well, and so
is what comes of the two. Numbers are compared without rounding, by what they stand for.
-/

namespace TransferProof

inductive Seconds where
  | exact (count : Rat)
  | floating (count : Double)
  deriving DecidableEq, Repr

namespace Seconds

def toRat? : Seconds → Option Rat
  | .exact count => some count
  | .floating count => count.toRat?

def toDouble : Seconds → Double
  | .exact count => .ofRat count
  | .floating count => count

def add : Seconds → Seconds → Seconds
  | .exact a, .exact b => .exact (a + b)
  | a, b => .floating (a.toDouble + b.toDouble)

def sub : Seconds → Seconds → Seconds
  | .exact a, .exact b => .exact (a - b)
  | a, b => .floating (a.toDouble - b.toDouble)

/-- The first number of seconds is the lesser one. Nothing is less or greater than a NaN. -/
def lt (a b : Seconds) : Bool :=
  match a.toRat?, b.toRat? with
  | some x, some y => x < y
  | some _, none => b == .floating (.infinite false)
  | none, some _ => a == .floating (.infinite true)
  | none, none => a == .floating (.infinite true) && b == .floating (.infinite false)

/-- The two stand for the same number of seconds. A NaN stands for none. -/
def same (a b : Seconds) : Bool :=
  match a.toRat?, b.toRat? with
  | some x, some y => x == y
  | none, none => a == b && a != .floating .nan
  | _, _ => false

def le (a b : Seconds) : Bool := a.lt b || a.same b

/-- The greater of two numbers of seconds; the first one, unless the second is greater. -/
def max (a b : Seconds) : Seconds := if a.lt b then b else a

instance : Add Seconds := ⟨add⟩

instance : Sub Seconds := ⟨sub⟩

instance {n : Nat} : OfNat Seconds n := ⟨.exact n⟩

theorem exact_add (a b : Rat) : exact a + exact b = exact (a + b) := rfl

theorem exact_sub (a b : Rat) : exact a - exact b = exact (a - b) := rfl

theorem lt_exact (a b : Rat) : (exact a).lt (exact b) = decide (a < b) := rfl

theorem le_exact (a b : Rat) : (exact a).le (exact b) = (decide (a < b) || a == b) := rfl

end Seconds

end TransferProof
