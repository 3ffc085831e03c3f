import Mathlib.Data.Rat.Floor
import TransferProof.Number.Decimal

/-!
# Significant digits

Rounding keeps a number of significant digits. It moves a number by half a unit of the last of them
at most, and it leaves a number as it is exactly if there are no more digits than that. What it
makes of a whole number is whole.
-/

namespace TransferProof

/-- The number has so many significant digits at most: it is a coefficient of no more digits, times
a power of ten. -/
def Significant (precision : Nat) (q : Rat) : Prop :=
  ∃ (m : Nat) (k : Int), m < 10 ^ precision ∧ q = m * 10 ^ k

/-- The point can be put elsewhere without more digits. -/
theorem significant_mul_pow_iff {precision : Nat} {q : Rat} (places : Nat) :
    Significant precision (q * 10 ^ places) ↔ Significant precision q := by
  have ten : (10 : Rat) ≠ 0 := by norm_num
  constructor
  · rintro ⟨m, k, few, same⟩
    refine ⟨m, k - places, few, ?_⟩
    rw [zpow_sub₀ ten, zpow_natCast, mul_div_assoc', ← same, mul_div_cancel_right₀ _ (by positivity)]
  · rintro ⟨m, k, few, rfl⟩
    refine ⟨m, k + places, few, ?_⟩
    rw [zpow_add₀ ten, zpow_natCast, mul_assoc]

namespace Decimal

def worth (number : Nat × Int) : Rat :=
  number.1 * 10 ^ number.2

theorem worth_pos_iff {number : Nat × Int} : 0 < worth number ↔ 0 < number.1 := by
  have unit : (0 : Rat) < 10 ^ number.2 := zpow_pos (by norm_num) _
  rw [worth, mul_pos_iff_of_pos_right unit, Nat.cast_pos]

/-- Zeros can be written at the end or be counted by the power of ten. -/
theorem natCast_mul_pow (m zeros : Nat) (exponent : Int) :
    ((m * 10 ^ zeros : Nat) : Rat) * 10 ^ exponent = m * 10 ^ (zeros + exponent) := by
  rw [zpow_add₀ (by norm_num), zpow_natCast, ← mul_assoc]
  push_cast
  rfl

/-- So many digits of a coefficient are more than are kept. -/
def surplus (precision coefficient : Nat) : Nat :=
  digitCount coefficient - precision

theorem digitCount_le_iff {n k : Nat} (positive : 0 < k) : digitCount n ≤ k ↔ n < 10 ^ k :=
  Nat.length_toDigits_le_iff (by decide) positive

theorem lt_pow_digitCount (n : Nat) : n < 10 ^ digitCount n :=
  (digitCount_le_iff Nat.length_toDigits_pos).mp le_rfl

section Rounding

variable {precision coefficient : Nat} {exponent : Int}

theorem lt_pow_add_surplus (precision coefficient : Nat) :
    coefficient < 10 ^ (precision + surplus precision coefficient) := by
  have room : digitCount coefficient ≤ precision + surplus precision coefficient := by
    rw [surplus]
    omega
  exact (lt_pow_digitCount coefficient).trans_le (Nat.pow_le_pow_right (by decide) room)

/-- A coefficient with too many digits has as many as are kept before the last that is not. -/
theorem pow_le_of_surplus (some : 0 < precision) (much : surplus precision coefficient ≠ 0) :
    10 ^ (precision - 1 + surplus precision coefficient) ≤ coefficient := by
  have many : ¬ digitCount coefficient ≤ precision - 1 + surplus precision coefficient := by
    rw [surplus] at *
    omega
  rwa [digitCount_le_iff (by omega), Nat.not_lt] at many

/-- Rounding cuts the surplus digits off. -/
theorem worth_roundTo (some : 0 < precision) (coefficient : Nat) (exponent : Int) :
    worth (roundTo precision coefficient exponent) =
      (roundDiv coefficient (10 ^ surplus precision coefficient)
        * 10 ^ surplus precision coefficient : Nat) * 10 ^ exponent := by
  have ten : (10 : Rat) ≠ 0 := by norm_num
  rw [roundTo, ← surplus]
  generalize surplus precision coefficient = surplus
  dsimp only [Nat.pow_eq]
  split
  case isTrue none =>
    have unchanged : roundDiv coefficient 1 = coefficient := by
      simpa using roundDiv_mul coefficient 1 Nat.one_pos
    simp [none, worth, unchanged]
  case isFalse =>
    split
    case isTrue carried =>
      obtain ⟨less, rfl⟩ : ∃ less, precision = less + 1 := ⟨precision - 1, by omega⟩
      rw [carried, worth, zpow_add₀ ten, zpow_add₀ ten, zpow_natCast, zpow_one,
        Nat.add_sub_cancel]
      push_cast
      ring
    case isFalse =>
      rw [natCast_mul_pow, add_comm (surplus : Int)]
      rfl

/-- A coefficient that ends in so many zeros is not changed by cutting them off. -/
theorem roundDiv_mul_cancel_iff {n unit : Nat} (positive : 0 < unit) :
    roundDiv n unit * unit = n ↔ unit ∣ n := by
  constructor
  · intro same
    exact ⟨roundDiv n unit, by rw [Nat.mul_comm, same]⟩
  · rintro ⟨q, rfl⟩
    rw [Nat.mul_comm unit q, roundDiv_mul q unit positive]

/-- The surplus digits are zeros just if there are no more significant digits than are kept. -/
theorem pow_surplus_dvd_iff (some : 0 < precision) (exponent : Int) :
    10 ^ surplus precision coefficient ∣ coefficient ↔
      Significant precision (coefficient * 10 ^ exponent) := by
  have ten : (10 : Rat) ≠ 0 := by norm_num
  have fits := lt_pow_add_surplus precision coefficient
  have many : surplus precision coefficient ≠ 0 →
      10 ^ (precision - 1 + surplus precision coefficient) ≤ coefficient := pow_le_of_surplus some
  generalize surplus precision coefficient = surplus at *
  constructor
  · rintro ⟨m, rfl⟩
    rw [Nat.add_comm, pow_add] at fits
    refine ⟨m, surplus + exponent, Nat.lt_of_mul_lt_mul_left fits, ?_⟩
    rw [Nat.mul_comm, natCast_mul_pow]
  · rintro ⟨m, k, few, same⟩
    by_cases none : surplus = 0
    · simp [none]
    · have shifted : (coefficient : Rat) = m * 10 ^ (k - exponent) := by
        rw [zpow_sub₀ ten, mul_div_assoc', ← same, mul_div_cancel_right₀ _ (zpow_ne_zero _ ten)]
      have longer : (10 : Rat) ^ (precision - 1 + surplus : Int)
          < 10 ^ (precision + (k - exponent)) := by
        calc (10 : Rat) ^ (precision - 1 + surplus : Int)
            = (10 ^ (precision - 1 + surplus) : Nat) := by
              rw [show (precision - 1 + surplus : Int) = (precision - 1 + surplus : Nat) by omega,
                zpow_natCast]
              push_cast
              rfl
          _ ≤ coefficient := by exact_mod_cast many none
          _ < 10 ^ precision * 10 ^ (k - exponent) := by
              rw [shifted]
              have unit : (0 : Rat) < 10 ^ (k - exponent) := zpow_pos (by norm_num) _
              have few : (m : Rat) < 10 ^ precision := by exact_mod_cast few
              exact mul_lt_mul_of_pos_right few unit
          _ = 10 ^ (precision + (k - exponent)) := by
              rw [zpow_add₀ ten, zpow_natCast]
      have enough : precision - 1 + surplus < precision + (k - exponent) :=
        (zpow_lt_zpow_iff_right₀ (by norm_num)).mp longer
      obtain ⟨more, zeros⟩ : ∃ more : Nat, k - exponent = surplus + more :=
        ⟨(k - exponent - surplus).toNat, by omega⟩
      refine ⟨m * 10 ^ more, ?_⟩
      rw [zeros, zpow_add₀ ten, zpow_natCast, zpow_natCast] at shifted
      have whole : (coefficient : Rat) = (10 ^ surplus * (m * 10 ^ more) : Nat) := by
        rw [shifted]
        push_cast
        ring
      exact_mod_cast whole

theorem worth_roundTo_eq_iff (some : 0 < precision) :
    worth (roundTo precision coefficient exponent) = coefficient * 10 ^ exponent ↔
      Significant precision (coefficient * 10 ^ exponent) := by
  have unit : (10 : Rat) ^ exponent ≠ 0 := zpow_ne_zero _ (by norm_num)
  rw [worth_roundTo some, mul_left_inj' unit, Nat.cast_inj,
    roundDiv_mul_cancel_iff (Nat.pow_pos (by decide)), pow_surplus_dvd_iff some exponent]

/-- Rounding moves a number by half a unit of its last significant digit at most. -/
theorem abs_worth_roundTo_sub_le (some : 0 < precision) (coefficient : Nat) (exponent : Int) :
    |worth (roundTo precision coefficient exponent) - coefficient * 10 ^ exponent|
      ≤ coefficient * 10 ^ exponent / (2 * 10 ^ (precision - 1)) := by
  have unit : (0 : Rat) < 10 ^ exponent := zpow_pos (by norm_num) _
  rw [worth_roundTo some, ← sub_mul, abs_mul, abs_of_pos unit, mul_div_right_comm]
  refine mul_le_mul_of_nonneg_right ?_ unit.le
  by_cases none : surplus precision coefficient = 0
  · have unchanged : roundDiv coefficient 1 = coefficient := by
      simpa using roundDiv_mul coefficient 1 Nat.one_pos
    simp only [none, pow_zero, unchanged, mul_one, sub_self, abs_zero]
    positivity
  · have many : 10 ^ (precision - 1) * 10 ^ surplus precision coefficient ≤ coefficient := by
      rw [← pow_add]
      exact pow_le_of_surplus some none
    obtain ⟨above, below⟩ := roundDiv_near coefficient (10 ^ surplus precision coefficient)
      (Nat.pow_pos (by decide))
    generalize 10 ^ surplus precision coefficient = last at *
    generalize roundDiv coefficient last * last = rounded at *
    have half : |(rounded : Rat) - coefficient| ≤ last / 2 := by
      have above : (2 * rounded : Rat) ≤ 2 * coefficient + last := by exact_mod_cast above
      have below : (2 * coefficient : Rat) ≤ 2 * rounded + last := by exact_mod_cast below
      exact abs_sub_le_iff.mpr ⟨by linarith, by linarith⟩
    have many : (10 ^ (precision - 1) * last : Rat) ≤ coefficient := by exact_mod_cast many
    refine half.trans ?_
    rw [div_le_div_iff₀ (by norm_num) (by positivity)]
    linarith

/-- What is rounded has no more digits than it is rounded to. -/
theorem significant_worth_roundTo (some : 0 < precision) (coefficient : Nat) (exponent : Int) :
    Significant precision (worth (roundTo precision coefficient exponent)) := by
  have near := roundDiv_near coefficient (10 ^ surplus precision coefficient)
    (Nat.pow_pos (by decide))
  have fits := lt_pow_add_surplus precision coefficient
  rw [worth_roundTo some]
  generalize surplus precision coefficient = surplus at *
  generalize roundDiv coefficient (10 ^ surplus) = m at *
  have most : m ≤ 10 ^ precision := by
    -- The error is at most half of a unit of the last digit.
    have unit : 0 < 10 ^ surplus := Nat.pow_pos (by decide)
    rw [pow_add] at fits
    refine Nat.le_of_lt_succ (Nat.lt_of_mul_lt_mul_right (a := 10 ^ surplus) ?_)
    rw [Nat.succ_mul]
    omega
  obtain few | carried := Nat.lt_or_eq_of_le most
  · exact ⟨m, surplus + exponent, few, natCast_mul_pow m surplus exponent⟩
  · refine ⟨1, precision + (surplus + exponent), Nat.one_lt_pow some.ne' (by decide), ?_⟩
    rw [natCast_mul_pow, carried, zpow_add₀ (by norm_num) (precision : Int), zpow_natCast]
    push_cast
    ring

theorem le_roundTo (precision coefficient : Nat) (exponent : Int) :
    exponent ≤ (roundTo precision coefficient exponent).2 := by
  rw [roundTo]
  dsimp only
  split
  · exact le_rfl
  · split
    · dsimp only
      omega
    · dsimp only
      omega

/-- As many zeros at the end as there are places make a number whole. -/
theorem exists_eq_natCast (m : Nat) {zeros : Nat} (enough : -(zeros : Int) ≤ exponent) :
    ∃ whole : Nat, ((m * 10 ^ zeros : Nat) : Rat) * 10 ^ exponent = whole := by
  obtain ⟨more, rfl⟩ : ∃ more : Nat, exponent = more - zeros :=
    ⟨(exponent + zeros).toNat, by omega⟩
  refine ⟨m * 10 ^ more, ?_⟩
  rw [zpow_sub₀ (by norm_num), zpow_natCast, zpow_natCast]
  push_cast
  field_simp

/-- What is rounded of a whole number is whole, however many of its digits are places. -/
theorem exists_worth_roundTo_eq (some : 0 < precision) {places : Nat}
    (multiple : 10 ^ places ∣ coefficient) (fine : -(places : Int) ≤ exponent) :
    ∃ whole : Nat, worth (roundTo precision coefficient exponent) = whole := by
  rw [worth_roundTo some]
  generalize surplus precision coefficient = surplus
  by_cases less : surplus ≤ places
  · have zeros : 10 ^ surplus ∣ coefficient := (Nat.pow_dvd_pow 10 less).trans multiple
    rw [(roundDiv_mul_cancel_iff (Nat.pow_pos (by decide))).mpr zeros]
    obtain ⟨m, rfl⟩ := multiple
    rw [Nat.mul_comm]
    exact exists_eq_natCast m fine
  · exact exists_eq_natCast _ (by omega)

end Rounding

section Zeros

/-- Zeros at the end do not count. -/
theorem worth_stripZeros (coefficient : Nat) (exponent : Int) (fuel : Nat) :
    worth (stripZeros coefficient exponent fuel) = coefficient * 10 ^ exponent := by
  induction fuel generalizing coefficient exponent with
  | zero => rfl
  | succ fuel ih =>
    rw [stripZeros]
    split
    case isTrue zero =>
      have tens : coefficient = coefficient / 10 * 10 := by omega
      have unit : (10 : Rat) ^ (exponent + 1) = 10 * 10 ^ exponent := by
        rw [zpow_add₀ (by norm_num), zpow_one, mul_comm]
      rw [ih, unit, ← mul_assoc]
      nth_rewrite 2 [tens]
      push_cast
      rfl
    case isFalse => rfl

theorem le_stripZeros (coefficient : Nat) (exponent : Int) (fuel : Nat) :
    exponent ≤ (stripZeros coefficient exponent fuel).2 := by
  induction fuel generalizing coefficient exponent with
  | zero => exact le_rfl
  | succ fuel ih =>
    rw [stripZeros]
    split
    case isTrue => exact (Int.le_of_lt (Int.lt_succ exponent)).trans (ih _ _)
    case isFalse => exact le_rfl

end Zeros

end Decimal

end TransferProof
