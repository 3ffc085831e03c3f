import TransferProof.Checker
import TransferProof.Proofs.Amount.Bounds
import TransferProof.Proofs.Number.Notation

/-!
# Amounts that are shown

Before a verification starts its amount is shown in XMR. To divide by a power of ten takes no digits
that the amount did not have when it was read, so nothing is rounded a second time: the text that is
shown is an amount by itself, and the same one.
-/

namespace TransferProof

namespace Amount

open Decimal

/-- A number of piconero that can be read: it is positive, has no more digits than products have,
and is not beyond all bounds. -/
structure Readable (amount : Int) : Prop where
  positive : 1 ≤ amount
  significant : Significant precision amount
  bounded : (amount : Rat) < 10 ^ (greatestPower + 1)

theorem readable_of_ofText {t : Text} {amount : Int} (read : ofText t = .ok amount) :
    Readable amount := by
  obtain ⟨n, found, unsigned, some, fine, product⟩ := written_of_ofText read
  have same := eq_worth_of_piconero fine product
  have scaled : 0 < n.coefficient * 10 ^ places := Nat.mul_pos some (Nat.pow_pos (by decide))
  have positive := roundTo_pos (by decide : 0 < precision) scaled n.exponent
  constructor
  · have value : (0 : Rat) < amount := by
      rw [same]
      exact worth_pos_iff.mpr positive
    exact_mod_cast value
  · rw [same]
    exact significant_worth_roundTo (by decide) _ _
  · rw [same, ← not_le, ← whole_eq_tooLarge_iff positive]
    intro large
    rw [piconero] at product
    cases product.symm.trans large

/-- A product that is a whole number within the bounds is made into this number. -/
theorem whole_eq_ok {product : Nat × Int} {amount : Int} (readable : Readable amount)
    (same : worth product = amount) : whole product = .ok amount := by
  obtain ⟨n, rfl⟩ := Int.eq_ofNat_of_zero_le (Int.le_trans Int.one_nonneg readable.positive)
  have positive : 0 < product.1 := by
    rw [← worth_pos_iff, same]
    exact_mod_cast readable.positive
  have bounded : ¬ greatestPower < adjusted product.1 product.2 := by
    rw [lt_adjusted_iff positive, same, not_le]
    exact readable.bounded
  obtain ⟨other, made⟩ : ∃ other, whole product = .ok other := by
    rw [whole, if_neg bounded]
    split
    · exact ⟨_, rfl⟩
    · exact ⟨_, rfl⟩
  have other_eq := eq_worth_of_whole same made
  rw [same] at other_eq
  rw [made, Int.cast_inj.mp other_eq]

/-- An amount is read from every number that it comes to in XMR, with few enough places. -/
theorem ofText_of_worth {t : Text} {number : Nat × Int} {amount : Int} (readable : Readable amount)
    (found : Decimal.ofText? t = some (.finite ⟨false, number.1, number.2⟩))
    (fine : -(places : Int) ≤ number.2) (same : worth number * 10 ^ places = amount) :
    ofText t = .ok amount := by
  have scaled : ((number.1 * 10 ^ places : Nat) : Rat) * 10 ^ number.2 = amount := by
    rw [← same, worth]
    push_cast
    ring
  have positive : number.1 ≠ 0 := by
    rintro zero
    have none : (amount : Rat) = 0 := by
      rw [← scaled, zero]
      simp
    have some : (1 : Rat) ≤ amount := by exact_mod_cast readable.positive
    linarith
  have rounded : worth (roundTo precision (number.1 * 10 ^ places) number.2) = amount := by
    rw [← scaled, worth_roundTo_eq_iff (by decide), scaled]
    exact readable.significant
  rw [ofText, found]
  dsimp only
  rw [if_neg (by simp [positive]), if_neg (Int.not_lt.mpr fine)]
  exact whole_eq_ok readable rounded

/-- To show an amount takes no more digits than it has. -/
theorem exists_toText_eq {amount : Int} (readable : Readable amount) :
    ∃ number : Nat × Int, toText amount = scientificText number.1 number.2
      ∧ 0 < number.1 ∧ -(places : Int) ≤ number.2 ∧ worth number * 10 ^ places = amount := by
  obtain ⟨n, rfl⟩ := Int.eq_ofNat_of_zero_le (Int.le_trans Int.one_nonneg readable.positive)
  have unit : (10 : Rat) ^ (-(places : Int)) * 10 ^ places = 1 := by
    rw [zpow_neg, zpow_natCast, inv_mul_cancel₀ (by positivity)]
  have stripped := worth_stripZeros n (-(places : Int)) places
  have fine := le_stripZeros n (-(places : Int)) places
  rw [toText, Int.natAbs_natCast]
  generalize stripZeros n (-(places : Int)) places = number at *
  have significant : Significant precision (number.1 * 10 ^ number.2) := by
    rw [← significant_mul_pow_iff places, ← worth, stripped, mul_assoc, unit, mul_one]
    exact_mod_cast readable.significant
  have rounded := (worth_roundTo_eq_iff (by decide)).mpr significant
  refine ⟨roundTo precision number.1 number.2, ?_, ?_, ?_, ?_⟩
  · rw [if_neg (Int.not_lt.mpr (Int.natCast_nonneg n))]
    rfl
  · have value : (0 : Rat) < worth number := by
      have some : (0 : Rat) < n := by exact_mod_cast readable.positive
      rw [stripped]
      positivity
    exact roundTo_pos (by decide) (worth_pos_iff.mp value) number.2
  · exact fine.trans (le_roundTo precision number.1 number.2)
  · rw [rounded, ← worth, stripped, mul_assoc, unit, mul_one, Int.cast_natCast]

/-- No power of ten in a readable amount is too great or too small to be read. -/
theorem fits_of_worth {number : Nat × Int} {amount : Int} (readable : Readable amount)
    (some : 0 < number.1) (fine : -(places : Int) ≤ number.2)
    (same : worth number * 10 ^ places = amount) : fits ⟨false, number.1, number.2⟩ = true := by
  have large : leastPower ≤ number.2 := Int.le_trans (by decide) fine
  have small : adjusted number.1 number.2 ≤ Decimal.greatestPower := by
    refine Int.not_lt.mp fun beyond => ?_
    have far := (lt_adjusted_iff some Decimal.greatestPower).mp beyond
    have further : (10 : Rat) ^ (Amount.greatestPower + 1) ≤ 10 ^ (Decimal.greatestPower + 1) :=
      zpow_le_zpow_right₀ (by norm_num) (by decide)
    have value : (0 : Rat) < worth number := worth_pos_iff.mpr some
    have least : (1 : Rat) ≤ 10 ^ places := one_le_pow₀ (by norm_num)
    have bounded := readable.bounded
    rw [← same] at bounded
    linarith [le_mul_of_one_le_right value.le least]
  rw [fits, Bool.and_eq_true, decide_eq_true_eq, if_neg some.ne']
  exact ⟨large, decide_eq_true small⟩

/-- Every readable amount is read from the text that shows it. -/
theorem ofText_toText {amount : Int} (readable : Readable amount) :
    ofText (toText amount) = .ok amount := by
  obtain ⟨number, shown, some, fine, same⟩ := exists_toText_eq readable
  rw [shown]
  exact ofText_of_worth readable (ofText?_scientificText (fits_of_worth readable some fine same))
    fine same

theorem amount_line_infix_heading (request : Request) :
    (Text.ofString "💰 Amount:          " ++ toText request.amount ++ Text.ofString " XMR\n")
      <:+: Checker.heading request := by
  rw [Checker.heading, Checker.headingLines]
  -- The lines above it are left out, and then those below.
  iterate 3
    rw [List.flatMap_cons]
    refine List.IsInfix.trans ?_ (List.suffix_append _ _).isInfix
  rw [List.flatMap_cons, Checker.ended, List.append_assoc _ (Text.ofString " XMR")]
  exact (List.prefix_append _ _).isInfix

/-- An amount that is read from a text is positive, and the line that shows it holds a text that is
read as the same amount. -/
theorem shown_amount_reads_back {t : Text} {amount : Int} (read : ofText t = .ok amount) :
    1 ≤ amount ∧ ofText (toText amount) = .ok amount
      ∧ ∀ request : Request, request.amount = amount →
        (Text.ofString "💰 Amount:          " ++ toText amount ++ Text.ofString " XMR\n")
          <:+: Checker.heading request := by
  have readable := readable_of_ofText read
  refine ⟨readable.positive, ofText_toText readable, ?_⟩
  rintro request rfl
  exact amount_line_infix_heading request

/-- A number of 29 digits is rounded, and shown as what it is rounded to. -/
theorem shown_amount_reads_back_rounded :
    ofText "12345678901234567.123456789012" = .ok 12345678901234567123456789010
      ∧ toText 12345678901234567123456789010 = "12345678901234567.12345678901"
      ∧ ofText (toText 12345678901234567123456789010) = .ok 12345678901234567123456789010 := by
  have read : ofText "12345678901234567.123456789012" = .ok 12345678901234567123456789010 := by
    decide +kernel
  exact ⟨read, by decide +kernel, (shown_amount_reads_back read).2.1⟩

end Amount

end TransferProof
