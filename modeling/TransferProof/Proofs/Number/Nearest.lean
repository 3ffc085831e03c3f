import TransferProof.Proofs.Number.Midpoint

/-!
# Nearest doubles

The double nearest to a number differs from it by one part in 2^53 at most, but for the smallest
numbers, whose last place is fixed. A number that a double can stand for is kept as it is.
-/

namespace TransferProof

/-- Rounding a quotient moves it by one half at most. -/
theorem abs_roundDiv_sub_le {num den : Nat} (positive : 0 < den) :
    |(roundDiv num den : Rat) - num / den| ≤ 1 / 2 := by
  obtain ⟨above, below⟩ := roundDiv_near num den positive
  have positive : (0 : Rat) < den := by exact_mod_cast positive
  have above : 2 * ((roundDiv num den : Rat) * den) ≤ 2 * num + den := by exact_mod_cast above
  have below : 2 * (num : Rat) ≤ 2 * (roundDiv num den * den) + den := by exact_mod_cast below
  generalize (roundDiv num den : Rat) = rounded at *
  have quotient : (num : Rat) = num / den * den := (div_mul_cancel₀ _ positive.ne').symm
  generalize (num : Rat) / den = q at *
  rw [quotient] at above below
  refine abs_sub_le_iff.mpr ⟨?_, ?_⟩
  · refine le_of_mul_le_mul_right ?_ positive
    linarith
  · refine le_of_mul_le_mul_right ?_ positive
    linarith

namespace Double

/-- The double stands for a number that differs from the value by what rounding costs. -/
def Rounds (x : Double) (value : Rat) : Prop :=
  ∃ q, x.toRat? = some q ∧ |q - value| ≤ |value| / 2 ^ 53 + 2 ^ (-1075 : Int)

section Quotients

variable {num den : Nat}

theorem abs_scaled_sub_le (num : Nat) (denominator : den ≠ 0) (exponent : Int) :
    |(scaled num den exponent : Rat) * 2 ^ exponent - num / den| ≤ 2 ^ exponent / 2 := by
  obtain ⟨a, b, positive, rounded, quotient⟩ := scaled_eq num denominator exponent
  have unit : (0 : Rat) < 2 ^ exponent := by positivity
  rw [← quotient, rounded, ← sub_mul, abs_mul, abs_of_pos unit]
  calc |(roundDiv a b : Rat) - a / b| * 2 ^ exponent ≤ 1 / 2 * 2 ^ exponent :=
        mul_le_mul_of_nonneg_right (abs_roundDiv_sub_le positive) unit.le
    _ = 2 ^ exponent / 2 := by ring

/-- The last place counts for a part of the number, or is the least one. -/
theorem two_zpow_scale_le (numerator : num ≠ 0) (denominator : den ≠ 0) :
    (2 : Rat) ^ scale num den / 2 ≤ num / den / 2 ^ 53 + 2 ^ (-1075 : Int) := by
  have quotient := quotient_pos numerator denominator
  have least : (0 : Rat) < 2 ^ (-1075 : Int) := by positivity
  rw [scale, floorLog2_eq numerator denominator]
  obtain normal | small := max_choice (Int.log 2 ((num : Rat) / den) - 52) (-1074)
  · have reached := Int.zpow_log_le_self (b := 2) (by decide) quotient
    rw [normal, zpow_sub₀ two_ne_zero]
    push_cast at reached
    calc (2 : Rat) ^ Int.log 2 ((num : Rat) / den) / 2 ^ (52 : Int) / 2
        = 2 ^ Int.log 2 ((num : Rat) / den) / 2 ^ 53 := by
          rw [div_div]
          norm_num
      _ ≤ num / den / 2 ^ 53 := by gcongr
      _ ≤ num / den / 2 ^ 53 + 2 ^ (-1075 : Int) := le_add_of_nonneg_right least.le
  · have half : (2 : Rat) ^ (-1074 : Int) / 2 = 2 ^ (-1075 : Int) := by
      rw [show (-1075 : Int) = -1074 - 1 by norm_num, zpow_sub_one₀ two_ne_zero,
        div_eq_mul_inv]
    have share : (0 : Rat) < num / den / 2 ^ 53 := by positivity
    rw [small, half]
    linarith

/-- What is not too great has a finite double. -/
theorem toRat?_ofRatio (negative : Bool) (numerator : num ≠ 0) (denominator : den ≠ 0)
    (small : (num : Rat) / den < 2 ^ (1023 : Int)) :
    (ofRatio negative num den).toRat? =
      some (if negative then -((scaled num den (scale num den) : Rat) * 2 ^ scale num den)
        else scaled num den (scale num den) * 2 ^ scale num den) := by
  have quotient := quotient_pos numerator denominator
  rcases ofRatio_cases negative den numerator with value | ⟨_, overflow⟩
  · rw [value, toRat?_finite]
  · have below := (Int.lt_zpow_iff_log_lt (b := 2) (by decide) quotient).mp small
    rw [scale, floorLog2_eq numerator denominator] at overflow
    omega

/-- A whole number of no more bits than a mantissa has is not rounded. -/
theorem scaled_mul_eq {n : Nat} (numerator : num ≠ 0) (denominator : den ≠ 0)
    (whole : (num : Rat) / den = n) (small : n < 2 ^ 53) :
    (scaled num den (scale num den) : Rat) * 2 ^ scale num den = n := by
  have positive := quotient_pos numerator denominator
  obtain ⟨places, fine⟩ : ∃ places : Nat, scale num den = -places := by
    have below : (num : Rat) / den < 2 ^ (53 : Int) := by
      rw [whole]
      exact_mod_cast small
    have log := (Int.lt_zpow_iff_log_lt (b := 2) (by decide) positive).mp below
    refine ⟨(-scale num den).toNat, ?_⟩
    rw [scale, floorLog2_eq numerator denominator]
    omega
  have unit : (0 : Rat) < 2 ^ places := by positivity
  have value : (num : Rat) / den = (n * 2 ^ places : Nat) * 2 ^ scale num den := by
    rw [whole, fine, zpow_neg, zpow_natCast]
    push_cast
    field_simp
  have mantissa : scaled num den (scale num den) = n * 2 ^ places :=
    Nat.le_antisymm (scaled_le denominator value.le) (le_scaled denominator value.ge)
  rw [mantissa, ← value, whole]

end Quotients

section Signed

variable {total : Int} {den : Nat}

theorem signed_quotient (total : Int) (den : Nat) :
    (total : Rat) / den =
      if decide (total < 0) = true then -((total.natAbs : Rat) / den) else total.natAbs / den := by
  split
  case isTrue negative =>
    have negative := of_decide_eq_true negative
    obtain ⟨n, rfl⟩ := Int.exists_eq_neg_ofNat negative.le
    rw [Int.natAbs_neg, Int.natAbs_natCast]
    push_cast
    ring
  case isFalse nonneg =>
    rw [decide_eq_true_eq, not_lt] at nonneg
    obtain ⟨n, rfl⟩ := Int.eq_ofNat_of_zero_le nonneg
    rw [Int.natAbs_natCast, Int.cast_natCast]

theorem abs_quotient (total : Int) (den : Nat) :
    |(total : Rat) / den| = total.natAbs / den := by
  rw [abs_div, Nat.abs_cast, Nat.cast_natAbs, Int.cast_abs]

theorem toRat?_zero (negative : Bool) : (zero negative).toRat? = some 0 := by
  rw [zero, toRat?_finite]
  cases negative <;> simp

/-- The double nearest to a number is off by what rounding costs. -/
theorem rounds_ofRatio (total : Int) (denominator : den ≠ 0)
    (small : |(total : Rat) / den| < 2 ^ (1023 : Int)) :
    (ofRatio (total < 0) total.natAbs den).Rounds (total / den) := by
  have least : (0 : Rat) < 2 ^ (-1075 : Int) := by positivity
  by_cases none : total = 0
  · subst none
    exact ⟨0, toRat?_zero _, by simp⟩
  · have numerator : total.natAbs ≠ 0 := Int.natAbs_ne_zero.mpr none
    have share := abs_quotient total den
    rw [share] at small
    refine ⟨_, toRat?_ofRatio _ numerator denominator small, ?_⟩
    have near := (abs_scaled_sub_le total.natAbs denominator _).trans
      (two_zpow_scale_le numerator denominator)
    rw [share, signed_quotient]
    split
    · rwa [neg_sub_neg, abs_sub_comm]
    · exact near

/-- A whole number of 53 bits is its own double. -/
theorem toRat?_ofRatio_of_whole {n : Int} (denominator : den ≠ 0) (whole : (total : Rat) / den = n)
    (small : n.natAbs < 2 ^ 53) :
    (ofRatio (total < 0) total.natAbs den).toRat? = some (n : Rat) := by
  by_cases none : total = 0
  · subst none
    rw [← whole, Int.cast_zero, zero_div]
    exact toRat?_zero _
  · have numerator : total.natAbs ≠ 0 := Int.natAbs_ne_zero.mpr none
    have share : (total.natAbs : Rat) / den = n.natAbs := by
      rw [← abs_quotient, whole, Nat.cast_natAbs, Int.cast_abs]
    have finite : (total.natAbs : Rat) / den < 2 ^ (1023 : Int) := by
      rw [share]
      calc (n.natAbs : Rat) < 2 ^ 53 := by exact_mod_cast small
        _ = 2 ^ (53 : Int) := (zpow_natCast 2 53).symm
        _ ≤ 2 ^ (1023 : Int) := zpow_le_zpow_right₀ one_le_two (by decide)
    rw [toRat?_ofRatio _ numerator denominator finite,
      scaled_mul_eq numerator denominator share small, ← whole, signed_quotient, share]

theorem toRat?_ofRatio_natCast {n : Nat} (small : n < 2 ^ 53) :
    (ofRatio false n 1).toRat? = some (n : Rat) := by
  have value : ((n : Int) : Rat) / (1 : Nat) = (n : Int) := by simp
  have same := toRat?_ofRatio_of_whole Nat.one_ne_zero value (by rwa [Int.natAbs_natCast])
  rwa [Int.natAbs_natCast, decide_eq_false (by omega), Int.cast_natCast] at same

end Signed

section Fractions

variable {num den : Nat}

/-- Without a sign a mantissa with its exponent comes as close to the fraction as the double
does. -/
theorem exists_ofRatio_eq (denominator : den ≠ 0) (small : (num : Rat) / den < 2 ^ (1023 : Int)) :
    ∃ negative mantissa exponent, ofRatio false num den = .finite negative mantissa exponent
      ∧ |(mantissa : Rat) * 2 ^ exponent - num / den| ≤ num / den / 2 ^ 53 + 2 ^ (-1075 : Int)
      ∧ (num = 0 → mantissa = 0) := by
  have share : |((num : Int) : Rat) / den| = num / den := abs_quotient num den
  obtain ⟨q, found, near⟩ := rounds_ofRatio num denominator (by rwa [share])
  rw [share, Int.cast_natCast] at near
  rw [Int.natAbs_natCast, decide_eq_false (by omega)] at found
  cases result : ofRatio false num den with
  | nan =>
    rw [result] at found
    cases found
  | infinite negative =>
    rw [result] at found
    cases found
  | finite negative mantissa exponent =>
    rw [result, toRat?_finite] at found
    obtain rfl := Option.some.inj found
    refine ⟨negative, mantissa, exponent, rfl, le_trans ?_ near, ?_⟩
    · have value : (0 : Rat) ≤ mantissa * 2 ^ exponent :=
        mul_nonneg (Nat.cast_nonneg mantissa) (zpow_nonneg zero_le_two exponent)
      have quotient : (0 : Rat) ≤ num / den :=
        div_nonneg (Nat.cast_nonneg num) (Nat.cast_nonneg den)
      split
      · -- With a minus the value would lie on the other side, farther off.
        rw [abs_le, ← neg_add', abs_neg, abs_of_nonneg (add_nonneg value quotient)]
        constructor <;> linarith
      · exact le_rfl
    · rintro rfl
      rw [ofRatio, if_pos rfl, zero] at result
      exact (Double.finite.inj result).2.1.symm

end Fractions

end Double

end TransferProof
