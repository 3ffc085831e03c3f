import TransferProof.Proofs.Amount.Exactness

/-!
# Amounts beyond all bounds

Products have a greatest power of ten, and an amount in piconero that comes to more is refused. No
other check is made before that, so such an amount is well written, positive, and has few enough
decimal places.
-/

namespace TransferProof

namespace Decimal

/-- The first digit stands beyond a power of ten just if the number is at least the next power. -/
theorem lt_adjusted_iff {number : Nat × Int} (positive : 0 < number.1) (power : Int) :
    power < adjusted number.1 number.2 ↔ (10 : Rat) ^ (power + 1) ≤ worth number := by
  have digits : 0 < digitCount number.1 := Nat.length_toDigits_pos
  rw [worth, adjusted]
  -- Either the exponent is enough by itself, or the digits make up for the rest.
  by_cases small : power + 1 ≤ number.2
  · have least : (1 : Rat) ≤ number.1 := by exact_mod_cast positive
    refine iff_of_true (by omega) ?_
    calc (10 : Rat) ^ (power + 1) ≤ 10 ^ number.2 := zpow_le_zpow_right₀ (by norm_num) small
      _ ≤ number.1 * 10 ^ number.2 := le_mul_of_one_le_left (by positivity) least
  · obtain ⟨more, positiveMore, sum⟩ : ∃ more : Nat, 0 < more ∧ power + 1 = more + number.2 :=
      ⟨(power + 1 - number.2).toNat, by omega, by omega⟩
    have unit : (0 : Rat) < 10 ^ number.2 := zpow_pos (by norm_num) _
    have counted : power < number.2 + (digitCount number.1 - 1 : Nat) ↔
        ¬ digitCount number.1 ≤ more := by omega
    rw [counted, digitCount_le_iff positiveMore, not_lt, sum, zpow_add₀ (by norm_num),
      mul_le_mul_iff_left₀ unit, zpow_natCast]
    exact_mod_cast Iff.rfl

/-- Rounding makes nothing of no positive number. -/
theorem roundTo_pos {precision coefficient : Nat} (some : 0 < precision)
    (positive : 0 < coefficient) (exponent : Int) :
    0 < (roundTo precision coefficient exponent).1 := by
  have close := abs_le.mp (abs_worth_roundTo_sub_le some coefficient exponent)
  have value : (0 : Rat) < coefficient * 10 ^ exponent := by positivity
  have half : (coefficient : Rat) * 10 ^ exponent / (2 * 10 ^ (precision - 1))
      < coefficient * 10 ^ exponent := by
    refine div_lt_self value ?_
    have least : (1 : Rat) ≤ 10 ^ (precision - 1) := one_le_pow₀ (by norm_num)
    linarith
  rw [← worth_pos_iff]
  linarith [close.1]

end Decimal

namespace Amount

open Decimal

/-- A positive number is written, with few enough decimal places, that rounded to the precision of
products comes to more piconero than the greatest power of ten allows. -/
def Boundless (t : Text) : Prop :=
  ∃ n, Decimal.ofText? t = some (.finite n) ∧ 0 < n.value ∧ -(places : Int) ≤ n.exponent
    ∧ (10 : Rat) ^ (greatestPower + 1)
      ≤ worth (roundTo precision (n.coefficient * 10 ^ places) n.exponent)

theorem value_pos_iff (n : Numeral) : 0 < n.value ↔ n.negative = false ∧ n.coefficient ≠ 0 := by
  have unit : (0 : Rat) < 10 ^ n.exponent := zpow_pos (by norm_num) _
  cases sign : n.negative with
  | false =>
    simp [Numeral.value, sign, unit, Nat.pos_iff_ne_zero]
  | true =>
    have small : ¬ 0 < -((n.coefficient : Rat) * 10 ^ n.exponent) := by
      rw [not_lt, neg_nonpos]
      positivity
    simpa [Numeral.value, sign] using small

theorem whole_eq_tooLarge_iff {product : Nat × Int} (positive : 0 < product.1) :
    whole product = .error .tooLarge ↔ (10 : Rat) ^ (greatestPower + 1) ≤ worth product := by
  rw [← lt_adjusted_iff positive, whole]
  split
  case isTrue large => exact iff_of_true rfl large
  case isFalse bounded =>
    refine iff_of_false ?_ bounded
    split
    · simp
    · simp

/-- No other amounts are refused for their size. -/
theorem ofText_eq_tooLarge_iff (t : Text) : ofText t = .error .tooLarge ↔ Boundless t := by
  have product {n : Numeral} (positive : n.coefficient ≠ 0) : piconero n = .error .tooLarge ↔
      (10 : Rat) ^ (greatestPower + 1)
        ≤ worth (roundTo precision (n.coefficient * 10 ^ places) n.exponent) := by
    refine whole_eq_tooLarge_iff (roundTo_pos (by decide) ?_ n.exponent)
    exact Nat.mul_pos (Nat.pos_of_ne_zero positive) (Nat.pow_pos (by decide))
  rw [ofText]
  split
  case h_1 missing => simp [Boundless, missing]
  case h_2 n found =>
    simp only [Boundless, found, Option.some.injEq, Decimal.finite.injEq, exists_eq_left',
      value_pos_iff]
    split
    case isTrue wrong =>
      refine iff_of_false (by simp) ?_
      rintro ⟨⟨unsigned, positive⟩, -⟩
      obtain negative | zero := wrong
      · rw [unsigned] at negative
        cases negative
      · exact positive zero
    case isFalse right =>
      rw [not_or, Bool.not_eq_true] at right
      split
      case isTrue coarse =>
        refine iff_of_false (by simp) ?_
        rintro ⟨-, fine, -⟩
        omega
      case isFalse fine =>
        rw [product right.2]
        exact ⟨fun large => ⟨right, Int.not_lt.mp fine, large⟩, fun bounds => bounds.2.2⟩
  case h_3 other infinite found =>
    refine iff_of_false (by simp) ?_
    rintro ⟨n, finite, -⟩
    rw [found] at finite
    exact infinite n (Option.some.inj finite)

end Amount

end TransferProof
