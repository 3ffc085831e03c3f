import Mathlib.Algebra.Order.Field.Power
import TransferProof.Amount
import TransferProof.Proofs.Number.Significant
import TransferProof.Proofs.Number.Writing

/-!
# Amounts that are read exactly

An amount in XMR has twelve decimal places at most, so in piconero it is a whole number. Yet it is
multiplied in numbers of 28 significant digits. The amount that is read is the one that is written
exactly if that has no more digits; else it is rounded.
-/

namespace TransferProof.Amount

open Decimal

/-- What is made of a product that is a whole number is this number: nothing is cut off. -/
theorem eq_worth_of_whole {product : Nat × Int} {n : Nat} {amount : Int} (same : worth product = n)
    (read : whole product = .ok amount) : (amount : Rat) = worth product := by
  obtain ⟨coefficient, exponent⟩ := product
  rw [whole] at read
  dsimp only at read
  split at read
  case isTrue => cases read
  case isFalse =>
    split at read
    case isTrue nonneg =>
      obtain rfl := Except.ok.inj read
      obtain ⟨zeros, rfl⟩ := Int.eq_ofNat_of_zero_le nonneg
      simp [worth]
    case isFalse negative =>
      obtain rfl := Except.ok.inj read
      obtain ⟨cut, rfl⟩ : ∃ cut : Nat, exponent = -cut := ⟨(-exponent).toNat, by omega⟩
      have parts : coefficient = n * 10 ^ cut := by
        rw [worth, zpow_neg, zpow_natCast, mul_inv_eq_iff_eq_mul₀ (by positivity)] at same
        exact_mod_cast same
      rw [same, parts]
      simp

/-- The amount is the product in so many digits, which is whole if there are few enough places. -/
theorem eq_worth_of_piconero {n : Numeral} {amount : Int} (fine : -(places : Int) ≤ n.exponent)
    (read : piconero n = .ok amount) :
    (amount : Rat) = worth (roundTo precision (n.coefficient * 10 ^ places) n.exponent) := by
  obtain ⟨w, same⟩ := exists_worth_roundTo_eq (by decide : 0 < precision)
    (Nat.dvd_mul_left (10 ^ places) n.coefficient) fine
  exact eq_worth_of_whole same read

/-- A text that is read as an amount writes a positive number with few enough places, and the amount
is its product. -/
theorem written_of_ofText {t : Text} {amount : Int} (read : ofText t = .ok amount) :
    ∃ n, Decimal.ofText? t = some (.finite n) ∧ n.negative = false ∧ 0 < n.coefficient
      ∧ -(places : Int) ≤ n.exponent ∧ piconero n = .ok amount := by
  rw [ofText] at read
  split at read
  case h_1 => cases read
  case h_3 => cases read
  case h_2 n found =>
    split at read
    case isTrue => cases read
    case isFalse positive =>
      split at read
      case isTrue => cases read
      case isFalse fine =>
        rw [not_or, Bool.not_eq_true] at positive
        exact ⟨n, found, positive.1, Nat.pos_of_ne_zero positive.2, Int.not_lt.mp fine, read⟩

/-- A text that is read as an amount writes one number, and this is positive. The amount is this
number in piconero exactly if it has no more than 28 significant digits, and otherwise differs from
it by half a unit of the last of them at most. -/
theorem exact_iff_significant {t : Text} {amount : Int} (read : ofText t = .ok amount) :
    ∃ n : Numeral, (∀ m, Writes t m ↔ m = n) ∧ 0 < n.value
      ∧ ((amount : Rat) = n.value * 10 ^ 12 ↔ Significant 28 n.value)
      ∧ |amount - n.value * 10 ^ 12| ≤ n.value * 10 ^ 12 / (2 * 10 ^ 27) := by
  obtain ⟨n, found, unsigned, positive, fine, product⟩ := written_of_ofText read
  have amount_eq := eq_worth_of_piconero fine product
  have value_eq : n.value = n.coefficient * 10 ^ n.exponent := by
    simp [Numeral.value, unsigned]
  have scaled : ((n.coefficient * 10 ^ places : Nat) : Rat) * 10 ^ n.exponent =
      n.value * 10 ^ 12 := by
    rw [value_eq, places]
    push_cast
    ring
  refine ⟨n, writes_iff_of_ofText? found, ?_, ?_, ?_⟩
  · rw [value_eq]
    positivity
  · rw [amount_eq, ← significant_mul_pow_iff 12, ← scaled]
    exact worth_roundTo_eq_iff (by decide)
  · rw [amount_eq, ← scaled]
    exact abs_worth_roundTo_sub_le (by decide) _ _

section Spellings

/-- One and a quarter hundredth of a coin. -/
theorem exact_iff_significant_spaced :
    ofText " +1_2.50e-3 " = .ok 12500000000
      ∧ ∃ n, Writes " +1_2.50e-3 " n ∧ ((12500000000 : Int) : Rat) = n.value * 10 ^ 12 := by
  have read : ofText " +1_2.50e-3 " = .ok 12500000000 := by decide +kernel
  refine ⟨read, ?_⟩
  obtain ⟨n, writes, -, exact_iff, -⟩ := exact_iff_significant read
  obtain rfl : ⟨false, 1250, -5⟩ = n :=
    (writes _).mp (Numeral.ofText?_eq_some_iff.mp (by decide +kernel))
  refine ⟨_, (writes _).mpr rfl, exact_iff.mpr ⟨1250, -5, by norm_num, ?_⟩⟩
  simp [Numeral.value]

/-- The last of 29 digits is lost. -/
theorem last_digit_is_lost :
    ofText "12345678901234567.123456789012" = .ok 12345678901234567123456789010
      ∧ Writes "12345678901234567.123456789012" ⟨false, 12345678901234567123456789012, -12⟩
      ∧ ((12345678901234567123456789010 : Int) : Rat) ≠
        (⟨false, 12345678901234567123456789012, -12⟩ : Numeral).value * 10 ^ 12 := by
  refine ⟨by decide +kernel, Numeral.ofText?_eq_some_iff.mp (by decide +kernel), ?_⟩
  simp [Numeral.value]

end Spellings

end TransferProof.Amount
