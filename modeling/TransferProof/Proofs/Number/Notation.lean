import TransferProof.Proofs.Number.Writing
import TransferProof.Proofs.Text.Digits
import TransferProof.Proofs.Text.Trimming

/-!
# Notations that read back

A decimal number is shown in plain or in scientific notation. Either spells the number with just its
coefficient and its exponent, so it is read back without a change.
-/

namespace TransferProof

namespace Text

theorem placeValue_ofNat (n : Nat) : placeValue (ofNat n) = n := by
  rw [← toNat_eq_placeValue, toNat_ofNat]

/-- Zeros at the front do not count. -/
theorem placeValue_zeroPad (width : Nat) (t : Text) :
    placeValue (zeroPad width t) = placeValue t := by
  have zeros (k : Nat) : (List.replicate k 0x30).foldl (fun n c => 10 * n + (c - 0x30)) 0 = 0 := by
    induction k with
    | zero => rfl
    | succ k ih => rwa [List.replicate_succ, List.foldl_cons]
  rw [← toNat_eq_placeValue, ← toNat_eq_placeValue, toNat, zeroPad, List.foldl_append, zeros]
  rfl

end Text

namespace Numeral

open Text

section Notations

variable {digits : Text}

/-- A point in front of the last places. -/
theorem spells_plain {places : Nat} (room : places < digits.length)
    (decimal : ∀ c ∈ digits, isAsciiDigit c = true) :
    Spells (if places = 0 then digits.take (digits.length - places)
        else digits.take (digits.length - places) ++ 0x2E :: digits.drop (digits.length - places))
      ⟨false, placeValue digits, -(places : Int)⟩ := by
  have parts : digits.take (digits.length - places) ++ digits.drop (digits.length - places) =
      digits := List.take_append_drop _ _
  have after : (digits.drop (digits.length - places)).length = places := by
    rw [List.length_drop]
    omega
  have some : digits ≠ [] := List.ne_nil_of_length_pos (Nat.zero_lt_of_lt room)
  generalize digits.take (digits.length - places) = whole at *
  generalize digits.drop (digits.length - places) = fraction at *
  subst parts after
  have spelled {figures : Text} (shown : Figures figures whole fraction) :
      Spells figures ⟨false, placeValue (whole ++ fraction), -(fraction.length : Int)⟩ := by
    have whole_text := Spells.of .none shown some decimal .none
    rwa [List.nil_append, List.append_nil, Int.zero_sub] at whole_text
  split
  case isTrue none =>
    obtain rfl := List.eq_nil_of_length_eq_zero none
    exact spelled (.plain whole)
  case isFalse => exact spelled (.pointed whole fraction)

/-- One digit before the point, and a power of ten. -/
theorem spells_scaled (some : digits ≠ []) (decimal : ∀ c ∈ digits, isAsciiDigit c = true)
    (first : Int) :
    Spells (digits.take 1 ++ (if digits.drop 1 = [] then [] else 0x2E :: digits.drop 1)
        ++ (if first < 0 then "E-" else "E+" : Text) ++ ofNat first.natAbs)
      ⟨false, placeValue digits, first - (digits.length - 1 : Nat)⟩ := by
  obtain ⟨d, fraction, rfl⟩ := List.exists_cons_of_ne_nil some
  have shown : Figures ([d] ++ (if fraction = [] then [] else 0x2E :: fraction)) [d] fraction := by
    split
    case isTrue none =>
      subst none
      exact .plain [d]
    case isFalse => exact .pointed [d] fraction
  have scaled : Scale ((if first < 0 then "E-" else "E+" : Text) ++ ofNat first.natAbs) first := by
    have power {negative : Bool} {sign : Text} (signed : Sign sign negative) :
        Scale (0x45 :: (sign ++ ofNat first.natAbs))
          (if negative then -(first.natAbs : Int) else first.natAbs) := by
      have powered := Scale.power (.inr rfl) signed (ofNat_ne_nil first.natAbs)
        fun c => isAsciiDigit_of_mem_ofNat
      rwa [placeValue_ofNat] at powered
    split
    case isTrue negative =>
      have powered := power .minus
      rwa [if_pos rfl, Int.ofNat_natAbs_of_nonpos (Int.le_of_lt negative), Int.neg_neg] at powered
    case isFalse nonneg =>
      have powered := power .plus
      rwa [if_neg Bool.false_ne_true, Int.natAbs_of_nonneg (Int.not_lt.mp nonneg)] at powered
  have whole_text := Spells.of .none shown some decimal scaled
  rwa [List.nil_append, ← List.append_assoc] at whole_text

end Notations

end Numeral

namespace Decimal

open Text

/-- Both notations keep the coefficient and the exponent. -/
theorem spells_scientificText (coefficient : Nat) (exponent : Int) :
    Numeral.Spells (scientificText coefficient exponent) ⟨false, coefficient, exponent⟩ := by
  have decimal : ∀ c ∈ ofNat coefficient, isAsciiDigit c = true :=
    fun c => isAsciiDigit_of_mem_ofNat
  rw [scientificText]
  dsimp only
  split
  case isTrue plain =>
    obtain ⟨places, rfl⟩ := Int.exists_eq_neg_ofNat plain.1
    have padded : ∀ c ∈ zeroPad (places + 1) (ofNat coefficient), isAsciiDigit c = true := by
      refine List.forall_mem_append.mpr ⟨fun c member => ?_, decimal⟩
      obtain rfl := List.eq_of_mem_replicate member
      decide
    have room : places < (zeroPad (places + 1) (ofNat coefficient)).length := by
      rw [zeroPad, List.length_append, List.length_replicate]
      omega
    have spelled := Numeral.spells_plain room padded
    rw [placeValue_zeroPad, placeValue_ofNat] at spelled
    rwa [Int.neg_neg, Int.toNat_natCast]
  case isFalse =>
    have spelled := Numeral.spells_scaled (ofNat_ne_nil coefficient) decimal
      (exponent + ((ofNat coefficient).length - 1 : Nat))
    rwa [placeValue_ofNat, Int.add_sub_cancel] at spelled

/-- Nothing in a numeral is a blank, an underscore or a digit of another script. -/
theorem simplified_trim_of_codes {t : Text} (codes : ∀ c ∈ t, Numeral.isNumeralCode c = true) :
    simplified (trim isBlank t) = t := by
  have plain {c : CodePoint} (code : Numeral.isNumeralCode c = true) :
      c < 0x80 ∧ c ≠ 0x5F ∧ isBlank c = false := by
    have every : ∀ c < 0x80, Numeral.isNumeralCode c = true → c ≠ 0x5F ∧ isBlank c = false := by
      decide
    exact ⟨Numeral.lt_of_isNumeralCode code, every c (Numeral.lt_of_isNumeralCode code) code⟩
  have trimmed : trim isBlank t = t :=
    trim_eq_self fun c member => (plain (codes c member)).2.2
  have kept : t.filter (· != 0x5F) = t :=
    List.filter_eq_self.mpr fun c member => bne_iff_ne.mpr (plain (codes c member)).2.1
  rw [trimmed, simplified, kept]
  refine (List.map_congr_left fun c member => ?_).trans (List.map_id' t)
  exact if_pos (plain (codes c member)).1

/-- A shown number is read as it is. -/
theorem ofText?_scientificText {coefficient : Nat} {exponent : Int}
    (within : fits ⟨false, coefficient, exponent⟩ = true) :
    ofText? (scientificText coefficient exponent) =
      some (.finite ⟨false, coefficient, exponent⟩) := by
  have spelled := spells_scientificText coefficient exponent
  refine ofText?_eq_finite_iff.mpr ⟨?_, within⟩
  rwa [Writes, simplified_trim_of_codes spelled.all]

end Decimal

end TransferProof
