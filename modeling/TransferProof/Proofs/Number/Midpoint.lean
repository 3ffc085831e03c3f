import Mathlib.Algebra.Order.Field.Power
import Mathlib.Data.Int.Log
import Mathlib.Data.Rat.Floor
import Mathlib.Tactic.Linarith
import Mathlib.Tactic.Ring
import TransferProof.Number.Seconds

/-!
# Midpoints

What is rounded to the nearest number comes to lie above a number whose last digit is even exactly
if it lay above the middle between this number and the next one. This is shown for quotients and
then for doubles.
-/

namespace TransferProof

section Quotients

variable {n num den : Nat}

theorem le_roundDiv (positive : 0 < den) (h : n * den ≤ num) : n ≤ roundDiv num den := by
  have near := (roundDiv_near num den positive).2
  by_contra less
  have step : (roundDiv num den + 1) * den ≤ n * den := Nat.mul_le_mul_right den (by omega)
  rw [Nat.succ_mul] at step
  omega

theorem roundDiv_le (positive : 0 < den) (h : num ≤ n * den) : roundDiv num den ≤ n := by
  have near := (roundDiv_near num den positive).1
  by_contra more
  have step : (n + 1) * den ≤ roundDiv num den * den := Nat.mul_le_mul_right den (by omega)
  rw [Nat.succ_mul] at step
  omega

/-- The middle goes to the even number below it. -/
theorem roundDiv_middle (positive : 0 < den) (even : n % 2 = 0)
    (middle : 2 * num = (2 * n + 1) * den) : roundDiv num den = n := by
  have parts : (2 * n + 1) * den = 2 * (n * den) + den := by ring
  obtain ⟨half, rfl⟩ : ∃ half, num = half + n * den := ⟨num - n * den, by omega⟩
  have rest : (half + n * den) % den = half := by
    rw [Nat.add_mul_mod_self_right, Nat.mod_eq_of_lt (by omega)]
  have tie := roundDiv_tie (half + n * den) den (by omega)
  have least : n ≤ roundDiv (half + n * den) den := le_roundDiv positive (by omega)
  have most : roundDiv (half + n * den) den ≤ n + 1 :=
    roundDiv_le positive (by rw [Nat.succ_mul]; omega)
  omega

theorem lt_roundDiv_iff (positive : 0 < den) (even : n % 2 = 0) :
    n < roundDiv num den ↔ (2 * n + 1) * den < 2 * num := by
  obtain ⟨above, below⟩ := roundDiv_near num den positive
  have parts : (2 * n + 1) * den = 2 * (n * den) + den := by ring
  constructor
  · intro more
    have step : (n + 1) * den ≤ roundDiv num den * den := Nat.mul_le_mul_right den more
    rw [Nat.succ_mul] at step
    have notMiddle : 2 * num ≠ (2 * n + 1) * den := by
      intro middle
      rw [roundDiv_middle positive even middle] at more
      omega
    omega
  · intro beyond
    by_contra notMore
    have step : roundDiv num den * den ≤ n * den := Nat.mul_le_mul_right den (by omega)
    omega

end Quotients

namespace Double

section Scaling

variable {num den : Nat}

theorem quotient_pos (numerator : num ≠ 0) (denominator : den ≠ 0) : (0 : Rat) < num / den := by
  have : (0 : Rat) < num := by exact_mod_cast Nat.pos_of_ne_zero numerator
  have : (0 : Rat) < den := by exact_mod_cast Nat.pos_of_ne_zero denominator
  positivity

/-- A power of two against a fraction, decided between whole numbers. -/
theorem two_zpow_le_iff (num : Nat) (positive : 0 < den) (t : Int) :
    (if 0 ≤ t then den * Nat.pow 2 t.toNat ≤ num else den ≤ num * Nat.pow 2 (-t).toNat) ↔
      (2 : Rat) ^ t ≤ num / den := by
  have positive : (0 : Rat) < den := by exact_mod_cast positive
  rw [le_div_iff₀ positive]
  split
  case isTrue nonneg =>
    obtain ⟨n, rfl⟩ := Int.eq_ofNat_of_zero_le nonneg
    rw [zpow_natCast, Int.toNat_natCast, mul_comm, Nat.pow_eq]
    exact_mod_cast Iff.rfl
  case isFalse negative =>
    obtain ⟨n, rfl⟩ : ∃ n : Nat, t = -n := ⟨(-t).toNat, by omega⟩
    have power : (0 : Rat) < 2 ^ n := by positivity
    rw [zpow_neg, zpow_natCast, neg_neg, Int.toNat_natCast, Nat.pow_eq, inv_mul_le_iff₀ power,
      mul_comm ((2 : Rat) ^ n)]
    exact_mod_cast Iff.rfl

/-- The quotient lies between two powers of two, and which of two exponents is right is tested. -/
theorem floorLog2_eq (numerator : num ≠ 0) (denominator : den ≠ 0) :
    floorLog2 num den = Int.log 2 ((num : Rat) / den) := by
  have positive : (0 : Rat) < den := by exact_mod_cast Nat.pos_of_ne_zero denominator
  have quotient := quotient_pos numerator denominator
  set k : Int := (num.log2 : Int) - den.log2 with exponent
  have reached := two_zpow_le_iff num (Nat.pos_of_ne_zero denominator) k
  have below : (num : Rat) / den < 2 ^ (k + 1) := by
    have numHigh : (num : Rat) < 2 ^ (num.log2 + 1) := by exact_mod_cast Nat.lt_log2_self
    have denLow : (2 : Rat) ^ den.log2 ≤ den := by exact_mod_cast Nat.log2_self_le denominator
    have parts : (2 : Rat) ^ (k + 1) * 2 ^ den.log2 = 2 ^ (num.log2 + 1) := by
      rw [← zpow_natCast, ← zpow_natCast, ← zpow_add₀ two_ne_zero]
      congr 1
      push_cast
      omega
    rw [div_lt_iff₀ positive]
    calc (num : Rat) < 2 ^ (num.log2 + 1) := numHigh
      _ = 2 ^ (k + 1) * 2 ^ den.log2 := parts.symm
      _ ≤ 2 ^ (k + 1) * den := by gcongr
  have above : (2 : Rat) ^ (k - 1) ≤ num / den := by
    have numLow : (2 : Rat) ^ num.log2 ≤ num := by exact_mod_cast Nat.log2_self_le numerator
    have denHigh : (den : Rat) ≤ 2 ^ (den.log2 + 1) := by exact_mod_cast Nat.lt_log2_self.le
    have parts : (2 : Rat) ^ (k - 1) * 2 ^ (den.log2 + 1) = 2 ^ num.log2 := by
      rw [← zpow_natCast, ← zpow_natCast, ← zpow_add₀ two_ne_zero]
      congr 1
      push_cast
      omega
    rw [le_div_iff₀ positive]
    calc (2 : Rat) ^ (k - 1) * den ≤ 2 ^ (k - 1) * 2 ^ (den.log2 + 1) := by gcongr
      _ = 2 ^ num.log2 := parts
      _ ≤ num := numLow
  have log := Int.zpow_le_iff_le_log (b := 2) (by decide) quotient (x := k)
  have less := Int.lt_zpow_iff_log_lt (b := 2) (by decide) quotient (x := k + 1)
  have least := Int.zpow_le_iff_le_log (b := 2) (by decide) quotient (x := k - 1)
  have test : floorLog2 num den = if (2 : Rat) ^ k ≤ num / den then k else k - 1 :=
    if_congr reached rfl rfl
  rw [test]
  split
  case isTrue atMost =>
    have first := log.mp atMost
    have second := less.mp below
    omega
  case isFalse more =>
    have first := log.not.mp more
    have second := least.mp above
    omega

/-- The mantissa of the double nearest to a fraction, for such an exponent. -/
def scaled (num den : Nat) (exponent : Int) : Nat :=
  if 0 ≤ exponent then roundDiv num (den * Nat.pow 2 exponent.toNat)
  else roundDiv (num * Nat.pow 2 (-exponent).toNat) den

/-- The mantissa is a rounded quotient, whatever the sign of the exponent. -/
theorem scaled_eq (num : Nat) (denominator : den ≠ 0) (exponent : Int) :
    ∃ a b : Nat, 0 < b ∧ scaled num den exponent = roundDiv a b
      ∧ (a : Rat) / b * 2 ^ exponent = num / den := by
  have positive : (den : Rat) ≠ 0 := by exact_mod_cast denominator
  by_cases nonneg : 0 ≤ exponent
  · obtain ⟨n, rfl⟩ := Int.eq_ofNat_of_zero_le nonneg
    refine ⟨num, den * Nat.pow 2 n, ?_, ?_, ?_⟩
    · exact Nat.mul_pos (Nat.pos_of_ne_zero denominator) (Nat.two_pow_pos n)
    · rw [scaled, if_pos nonneg, Int.toNat_natCast]
    · rw [zpow_natCast, Nat.pow_eq]
      push_cast
      field_simp
  · obtain ⟨n, rfl⟩ : ∃ n : Nat, exponent = -n := ⟨(-exponent).toNat, by omega⟩
    refine ⟨num * Nat.pow 2 n, den, Nat.pos_of_ne_zero denominator, ?_, ?_⟩
    · rw [scaled, if_neg nonneg, neg_neg, Int.toNat_natCast]
    · rw [zpow_neg, zpow_natCast, Nat.pow_eq]
      push_cast
      field_simp

variable {n : Nat} {exponent : Int}

theorem le_scaled (denominator : den ≠ 0) (h : (n : Rat) * 2 ^ exponent ≤ num / den) :
    n ≤ scaled num den exponent := by
  obtain ⟨a, b, positive, rounded, quotient⟩ := scaled_eq num denominator exponent
  rw [← quotient, mul_le_mul_iff_left₀ (by positivity),
    le_div_iff₀ (by exact_mod_cast positive)] at h
  rw [rounded]
  exact le_roundDiv positive (by exact_mod_cast h)

theorem scaled_le (denominator : den ≠ 0) (h : (num : Rat) / den ≤ n * 2 ^ exponent) :
    scaled num den exponent ≤ n := by
  obtain ⟨a, b, positive, rounded, quotient⟩ := scaled_eq num denominator exponent
  rw [← quotient, mul_le_mul_iff_left₀ (by positivity),
    div_le_iff₀ (by exact_mod_cast positive)] at h
  rw [rounded]
  exact roundDiv_le positive (by exact_mod_cast h)

theorem lt_scaled_iff (denominator : den ≠ 0) (even : n % 2 = 0) :
    n < scaled num den exponent ↔ ((n : Rat) + 1 / 2) * 2 ^ exponent < num / den := by
  obtain ⟨a, b, positive, rounded, quotient⟩ := scaled_eq num denominator exponent
  rw [← quotient, mul_lt_mul_iff_left₀ (by positivity),
    lt_div_iff₀ (by exact_mod_cast positive), rounded, lt_roundDiv_iff positive even]
  have middle : ((n : Rat) + 1 / 2) * b = (2 * n + 1) * b / 2 := by ring
  rw [middle, div_lt_iff₀ two_pos, mul_comm (a : Rat)]
  exact_mod_cast Iff.rfl

end Scaling

def scale (num den : Nat) : Int := max (floorLog2 num den - 52) (-1074)

theorem toRat?_finite (negative : Bool) (mantissa : Nat) (exponent : Int) :
    (finite negative mantissa exponent).toRat? =
      some (if negative then -((mantissa : Rat) * 2 ^ exponent) else mantissa * 2 ^ exponent) := by
  have magnitude : (if 0 ≤ exponent then ((mantissa * Nat.pow 2 exponent.toNat : Nat) : Rat)
      else (mantissa : Rat) / (Nat.pow 2 (-exponent).toNat : Nat)) = mantissa * 2 ^ exponent := by
    split
    case isTrue nonneg =>
      obtain ⟨n, rfl⟩ := Int.eq_ofNat_of_zero_le nonneg
      rw [zpow_natCast, Int.toNat_natCast, Nat.pow_eq]
      push_cast
      rfl
    case isFalse below =>
      obtain ⟨n, rfl⟩ : ∃ n : Nat, exponent = -n := ⟨(-exponent).toNat, by omega⟩
      rw [zpow_neg, zpow_natCast, neg_neg, Int.toNat_natCast, Nat.pow_eq]
      push_cast
      rfl
  rw [toRat?, magnitude]

theorem toRat?_neg (x : Double) : x.neg.toRat? = x.toRat?.map (-·) := by
  cases x with
  | nan => rfl
  | infinite negative => rfl
  | finite negative mantissa exponent =>
    rw [neg, toRat?_finite, toRat?_finite]
    cases negative <;> simp

theorem neg_eq_infinite_false_iff (x : Double) : x.neg = .infinite false ↔ x = .infinite true := by
  cases x <;> simp [neg]

/-- The double nearest to a fraction stands for its mantissa times a power of two, or is infinite,
which takes a great exponent. -/
theorem ofRatio_cases (negative : Bool) {num : Nat} (den : Nat) (numerator : num ≠ 0) :
    (ofRatio negative num den).toRat? =
        (finite negative (scaled num den (scale num den)) (scale num den)).toRat?
      ∨ (ofRatio negative num den = .infinite negative ∧ 970 < scale num den) := by
  by_cases full : scaled num den (scale num den) = Nat.pow 2 53
  · have rounded : ofRatio negative num den =
        if 971 < scale num den + 1 then .infinite negative
        else .finite negative (Nat.pow 2 52) (scale num den + 1) := by
      rw [scaled, scale] at full
      rw [ofRatio, if_neg numerator]
      dsimp only
      rw [if_pos full]
      rfl
    rw [rounded, full]
    split
    · exact Or.inr ⟨rfl, by omega⟩
    · left
      -- A mantissa of 54 bits is halved, which does not change the value.
      have half : ((Nat.pow 2 52 : Nat) : Rat) * 2 ^ (scale num den + 1) =
          (Nat.pow 2 53 : Nat) * 2 ^ scale num den := by
        rw [zpow_add₀ two_ne_zero, zpow_one, Nat.pow_eq, Nat.pow_eq]
        push_cast
        ring
      rw [toRat?_finite, toRat?_finite, half]
  · have rounded : ofRatio negative num den =
        if 971 < scale num den then .infinite negative
        else .finite negative (scaled num den (scale num den)) (scale num den) := by
      rw [scaled, scale] at full
      rw [ofRatio, if_neg numerator]
      dsimp only
      rw [if_neg full]
      rfl
    rw [rounded]
    split
    · exact Or.inr ⟨rfl, by omega⟩
    · exact Or.inl rfl

def Exceeds (x : Double) (bound : Rat) : Prop :=
  x = .infinite false ∨ ∃ q, x.toRat? = some q ∧ bound < q

section Exceeding

variable {n num den : Nat} {exponent : Int}

theorem exceeds_iff_of_toRat? {x : Double} {value bound : Rat} (finite : x.toRat? = some value) :
    x.Exceeds bound ↔ bound < value := by
  constructor
  · rintro (rfl | ⟨q, found, beyond⟩)
    · cases finite
    · obtain rfl := Option.some.inj (finite.symm.trans found)
      exact beyond
  · intro beyond
    exact Or.inr ⟨value, finite, beyond⟩

theorem exceeds_iff_of_toRat?_none {x : Double} {bound : Rat} (unvalued : x.toRat? = none) :
    x.Exceeds bound ↔ x = .infinite false := by
  simp [Exceeds, unvalued]

theorem not_exceeds_nan (bound : Rat) : ¬ nan.Exceeds bound := by
  rintro (impossible | ⟨q, impossible, _⟩) <;> cases impossible

/-- On the scale of the bound the mantissas are compared. -/
theorem exceeds_ofRatio_of_scale_eq (numerator : num ≠ 0) (denominator : den ≠ 0)
    (even : n % 2 = 0) (high : exponent ≤ 970) (here : scale num den = exponent) :
    (ofRatio false num den).Exceeds (n * 2 ^ exponent) ↔
      ((n : Rat) + 1 / 2) * 2 ^ exponent < num / den := by
  have power : (0 : Rat) < 2 ^ exponent := by positivity
  rcases ofRatio_cases false den numerator with value | ⟨_, overflow⟩
  · rw [toRat?_finite, here] at value
    rw [exceeds_iff_of_toRat? value, ← lt_scaled_iff denominator even]
    constructor
    · intro beyond
      exact_mod_cast lt_of_mul_lt_mul_right beyond power.le
    · intro more
      have more : (n : Rat) < scaled num den exponent := by exact_mod_cast more
      exact mul_lt_mul_of_pos_right more power
  · omega

/-- A double on a lower scale does not reach the bound, and neither does what was rounded to it. -/
theorem not_exceeds_ofRatio (numerator : num ≠ 0) (denominator : den ≠ 0) (least : 2 ^ 52 ≤ n)
    (high : exponent ≤ 970) (lower : scale num den < exponent) :
    (num : Rat) / den < n * 2 ^ exponent
      ∧ ¬ (ofRatio false num den).Exceeds (n * 2 ^ exponent) := by
  have below : (num : Rat) / den < n * 2 ^ exponent := by
    have next := Int.lt_zpow_succ_log_self (b := 2) (by decide) ((num : Rat) / den)
    rw [← floorLog2_eq numerator denominator] at next
    have least : (2 : Rat) ^ (52 : Int) ≤ n := by exact_mod_cast least
    have exponents : floorLog2 num den + 1 ≤ 52 + exponent := by
      have := le_max_left (floorLog2 num den - 52) (-1074)
      rw [scale] at lower
      omega
    calc (num : Rat) / den < 2 ^ (floorLog2 num den + 1) := next
      _ ≤ 2 ^ (52 + exponent) := zpow_le_zpow_right₀ one_le_two exponents
      _ = 2 ^ (52 : Int) * 2 ^ exponent := zpow_add₀ two_ne_zero _ _
      _ ≤ n * 2 ^ exponent := by gcongr
  refine ⟨below, ?_⟩
  rcases ofRatio_cases false den numerator with value | ⟨_, overflow⟩
  · rw [toRat?_finite] at value
    rw [exceeds_iff_of_toRat? value, not_lt]
    obtain ⟨d, parts⟩ : ∃ d : Nat, exponent = d + scale num den :=
      ⟨(exponent - scale num den).toNat, by omega⟩
    have split : (n : Rat) * 2 ^ exponent = (n * 2 ^ d : Nat) * 2 ^ scale num den := by
      rw [parts, zpow_add₀ two_ne_zero, zpow_natCast]
      push_cast
      ring
    rw [split] at below ⊢
    have atMost : (scaled num den (scale num den) : Rat) ≤ (n * 2 ^ d : Nat) := by
      exact_mod_cast scaled_le denominator below.le
    exact mul_le_mul_of_nonneg_right atMost (by positivity)
  · omega

/-- A double on a greater scale exceeds the bound, and so does what was rounded to it. -/
theorem exceeds_ofRatio (numerator : num ≠ 0) (denominator : den ≠ 0) (most : n < 2 ^ 53)
    (low : -1074 ≤ exponent) (greater : exponent < scale num den) :
    ((n : Rat) + 1 / 2) * 2 ^ exponent < num / den
      ∧ (ofRatio false num den).Exceeds (n * 2 ^ exponent) := by
  have quotient := quotient_pos numerator denominator
  have power : (0 : Rat) < 2 ^ exponent := by positivity
  have most : (n : Rat) + 1 ≤ 2 ^ (53 : Int) := by exact_mod_cast most
  have bound : (2 : Rat) ^ (53 : Int) * 2 ^ exponent ≤ 2 ^ (52 : Int) * 2 ^ scale num den := by
    rw [← zpow_add₀ two_ne_zero, ← zpow_add₀ two_ne_zero]
    exact zpow_le_zpow_right₀ one_le_two (by omega)
  have above : (2 : Rat) ^ (52 : Int) * 2 ^ scale num den ≤ num / den := by
    have reached := Int.zpow_log_le_self (b := 2) (by decide) quotient
    rw [← floorLog2_eq numerator denominator] at reached
    have exponents : 52 + scale num den = floorLog2 num den := by
      rw [scale] at greater ⊢
      omega
    rw [← zpow_add₀ two_ne_zero, exponents]
    exact reached
  constructor
  · calc ((n : Rat) + 1 / 2) * 2 ^ exponent < 2 ^ (53 : Int) * 2 ^ exponent := by
          refine mul_lt_mul_of_pos_right ?_ power
          linarith
      _ ≤ 2 ^ (52 : Int) * 2 ^ scale num den := bound
      _ ≤ num / den := above
  · rcases ofRatio_cases false den numerator with value | ⟨overflow, _⟩
    · rw [toRat?_finite] at value
      rw [exceeds_iff_of_toRat? value]
      have atLeast : 2 ^ 52 ≤ scaled num den (scale num den) :=
        le_scaled denominator (by exact_mod_cast above)
      have atLeast : (2 : Rat) ^ (52 : Int) ≤ scaled num den (scale num den) := by
        exact_mod_cast atLeast
      calc (n : Rat) * 2 ^ exponent < 2 ^ (53 : Int) * 2 ^ exponent := by
            refine mul_lt_mul_of_pos_right ?_ power
            linarith
        _ ≤ 2 ^ (52 : Int) * 2 ^ scale num den := bound
        _ ≤ scaled num den (scale num den) * 2 ^ scale num den := by gcongr
    · exact Or.inl overflow

/-- A double with an even mantissa of 53 bits is exceeded by just what was rounded from above the
middle to the next double. -/
theorem exceeds_ofRatio_iff (numerator : num ≠ 0) (denominator : den ≠ 0) (even : n % 2 = 0)
    (least : 2 ^ 52 ≤ n) (most : n < 2 ^ 53) (low : -1074 ≤ exponent) (high : exponent ≤ 970) :
    (ofRatio false num den).Exceeds (n * 2 ^ exponent) ↔
      ((n : Rat) + 1 / 2) * 2 ^ exponent < num / den := by
  have power : (0 : Rat) < 2 ^ exponent := by positivity
  rcases lt_trichotomy (scale num den) exponent with lower | here | greater
  · obtain ⟨below, notExceeded⟩ := not_exceeds_ofRatio numerator denominator least high lower
    refine iff_of_false notExceeded ?_
    intro beyond
    have : (n : Rat) * 2 ^ exponent < (n + 1 / 2) * 2 ^ exponent :=
      mul_lt_mul_of_pos_right (by linarith) power
    linarith
  · exact exceeds_ofRatio_of_scale_eq numerator denominator even high here
  · obtain ⟨beyond, exceeded⟩ := exceeds_ofRatio numerator denominator most low greater
    exact iff_of_true exceeded beyond

theorem not_exceeds_zero (negative : Bool) {bound : Rat} (positive : 0 < bound) :
    ¬ (zero negative).Exceeds bound := by
  rw [zero, exceeds_iff_of_toRat? (toRat?_finite _ _ _)]
  cases negative <;> simpa using positive.le

theorem not_exceeds_negative (num den : Nat) {bound : Rat} (positive : 0 < bound) :
    ¬ (ofRatio true num den).Exceeds bound := by
  by_cases numerator : num = 0
  · rw [ofRatio, if_pos numerator]
    exact not_exceeds_zero true positive
  · rcases ofRatio_cases true den numerator with value | ⟨overflow, _⟩
    · rw [toRat?_finite] at value
      rw [exceeds_iff_of_toRat? value, if_pos rfl, not_lt]
      have : (0 : Rat) ≤ scaled num den (scale num den) * 2 ^ scale num den := by positivity
      linarith
    · rw [overflow]
      rintro (impossible | ⟨q, impossible, _⟩) <;> cases impossible

theorem exceeds_ofRat_iff (q : Rat) (even : n % 2 = 0) (least : 2 ^ 52 ≤ n) (most : n < 2 ^ 53)
    (low : -1074 ≤ exponent) (high : exponent ≤ 970) :
    (ofRat q).Exceeds (n * 2 ^ exponent) ↔ ((n : Rat) + 1 / 2) * 2 ^ exponent < q := by
  have power : (0 : Rat) < 2 ^ exponent := by positivity
  have mantissa : (0 : Rat) < n := by
    have : 0 < n := by omega
    exact_mod_cast this
  have middle : (0 : Rat) < (n + 1 / 2) * 2 ^ exponent := by positivity
  rw [ofRat]
  rcases lt_trichotomy q 0 with negative | rfl | positive
  · rw [decide_eq_true (Rat.num_neg.mpr negative)]
    refine iff_of_false (not_exceeds_negative _ _ (by positivity)) ?_
    linarith
  · refine iff_of_false (not_exceeds_zero false (by positivity)) ?_
    linarith
  · have numerator := Rat.num_pos.mpr positive
    have quotient : (q.num.natAbs : Rat) / q.den = q := by
      have whole : ((q.num.natAbs : Int) : Rat) = q.num := by rw [Int.natAbs_of_nonneg numerator.le]
      calc (q.num.natAbs : Rat) / q.den = q.num / q.den := by rw [← whole]; rfl
        _ = q := q.num_div_den
    rw [decide_eq_false (by omega),
      exceeds_ofRatio_iff (by omega) q.den_nz even least most low high, quotient]

end Exceeding

end Double

end TransferProof
