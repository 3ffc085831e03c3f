import Mathlib.Data.Rat.Floor
import TransferProof.Classifier

/-!
# Numbers in responses

The number that a JSON value stands for is a fraction. Where the classifier asks for an integer it
cuts this fraction toward zero, and it takes truth values, which stand for no number, as well.
-/

namespace TransferProof

/-- The whole number toward zero from a fraction. -/
def truncated (q : Rat) : Int :=
  if 0 ≤ q then ⌊q⌋ else ⌈q⌉

theorem truncated_of_nonneg {q : Rat} (nonneg : 0 ≤ q) : truncated q = ⌊q⌋ := by
  rw [truncated, if_pos nonneg]

theorem truncated_neg (q : Rat) : truncated (-q) = -truncated q := by
  rcases lt_trichotomy q 0 with negative | rfl | positive
  · have opposite : 0 ≤ -q := by linarith
    rw [truncated_of_nonneg opposite, truncated, if_neg (not_le.mpr negative), Int.floor_neg]
  · rfl
  · have opposite : ¬ 0 ≤ -q := by linarith
    rw [truncated_of_nonneg positive.le, truncated, if_neg opposite, Int.ceil_neg]

@[simp] theorem truncated_intCast (n : Int) : truncated n = n := by
  rw [truncated, Int.floor_intCast, Int.ceil_intCast, ite_self]

theorem truncated_natCast_div (a b : Nat) : truncated ((a : Rat) / b) = (a / b : Nat) := by
  rw [truncated_of_nonneg (by positivity), Rat.floor_natCast_div_natCast]
  rfl

/-- Cutting makes no number less unless it is positive. -/
theorem truncated_le_of_nonneg {q : Rat} (nonneg : 0 ≤ q) : truncated q ≤ q := by
  rw [truncated_of_nonneg nonneg]
  exact Int.floor_le q

theorem lt_truncated_add_one (q : Rat) : (truncated q : Rat) < q + 1 := by
  rw [truncated]
  split
  · exact lt_of_le_of_lt (Int.floor_le q) (lt_add_one q)
  · exact Int.ceil_lt_add_one q

/-- A double is cut to the whole number toward zero from what it stands for. -/
theorem Double.truncate?_eq (x : Double) : x.truncate? = x.toRat?.map truncated := by
  cases x with
  | nan => rfl
  | infinite negative => rfl
  | finite negative mantissa exponent =>
    have magnitude : truncated (if 0 ≤ exponent then (mantissa * Nat.pow 2 exponent.toNat : Nat)
        else (mantissa : Rat) / (Nat.pow 2 (-exponent).toNat : Nat)) =
          (if 0 ≤ exponent then mantissa * Nat.pow 2 exponent.toNat
            else mantissa / Nat.pow 2 (-exponent).toNat : Nat) := by
      split
      · exact truncated_intCast _
      · exact truncated_natCast_div _ _
    simp only [truncate?, toRat?, Option.map_some]
    cases negative with
    | false => simpa using magnitude.symm
    | true => simpa [truncated_neg] using magnitude.symm

namespace Classifier

/-- The number that a value stands for. A truth value stands for none. -/
def number? : Json → Option Rat
  | .int value => some value
  | .double value => value.toRat?
  | .string value =>
    match value.toInt with
    | .ok i => some i
    | .error _ => none
  | _ => none

def isTruth : Json → Bool
  | .bool _ => true
  | _ => false

def IsWhole (value : Json) : Prop :=
  ∃ n : Int, number? value = some (n : Rat)

theorem integerOfDouble_eq {x : Double} {q : Rat} (finite : x.toRat? = some q) :
    integerOfDouble x = .ok (truncated q) := by
  rw [integerOfDouble, Double.truncate?_eq, finite]
  rfl

/-- A number is cut toward zero. -/
theorem integer_of_number? {value : Json} {q : Rat} (h : number? value = some q) :
    integer value = .ok (truncated q) := by
  cases value with
  | int n =>
    obtain rfl : (n : Rat) = q := Option.some.inj h
    rw [truncated_intCast]
    rfl
  | double x => exact integerOfDouble_eq h
  | string t =>
    rw [number?] at h
    rw [integer]
    cases read : t.toInt with
    | error fault => simp [read] at h
    | ok n =>
      obtain rfl : (n : Rat) = q := by simpa [read] using h
      rw [truncated_intCast]
  | _ => cases h

theorem number?_of_integer {value : Json} {n : Int} (h : integer value = .ok n)
    (number : isTruth value = false) : ∃ q, number? value = some q ∧ truncated q = n := by
  cases value with
  | bool flag => cases number
  | int m => exact ⟨m, rfl, by simpa [integer] using h⟩
  | double x =>
    rw [integer, integerOfDouble, Double.truncate?_eq] at h
    cases finite : x.toRat? with
    | none => simp [finite] at h
    | some q => exact ⟨q, finite, by simpa [finite] using h⟩
  | string t =>
    rw [integer] at h
    cases read : t.toInt with
    | error fault => simp [read] at h
    | ok m => exact ⟨m, by simp [number?, read], by simpa [read] using h⟩
  | _ => cases h

end Classifier

end TransferProof
