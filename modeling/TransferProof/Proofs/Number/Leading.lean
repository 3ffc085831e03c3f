import TransferProof.Proofs.Number.Nearest
import TransferProof.Proofs.Number.Significant
import TransferProof.Proofs.Number.Writing
import TransferProof.Proofs.Text.Digits
import TransferProof.Proofs.Text.Trimming

/-!
# Numbers that begin with digits

A text that begins with digits and is read as a double goes on as numerals do: with a digit, an
underscore, a point or the mark of a power of ten. Nothing else stands in it but blanks at the end.
Digits alone are always a number.
-/

namespace TransferProof

namespace Numeral

open Text

/-- What may stand next to the first digits of a numeral. -/
theorem Spells.next {digits rest : Text} {c : CodePoint} {n : Numeral}
    (spelled : Spells (digits ++ c :: rest) n) (some : digits ≠ [])
    (decimal : ∀ d ∈ digits, isAsciiDigit d = true) :
    isAsciiDigit c = true ∨ c = 0x2E ∨ c = 0x65 ∨ c = 0x45 := by
  by_cases digit : isAsciiDigit c = true
  · exact .inl digit
  · right
    have unsigned : ∀ d ∈ (digits ++ c :: rest).head?, d ≠ 0x2B ∧ d ≠ 0x2D := by
      obtain ⟨d, others, rfl⟩ := List.exists_cons_of_ne_nil some
      rintro d ⟨rfl⟩
      exact ne_sign_of_isAsciiDigit (decimal d List.mem_cons_self)
    have stop : ∀ d ∈ (c :: rest).head?, isAsciiDigit d = false := by
      rintro d ⟨rfl⟩
      exact Bool.eq_false_iff.mpr digit
    have front : splitSign (digits ++ c :: rest) = (false, digits ++ c :: rest) :=
      splitSign_append .none unsigned
    have read := spelled.ofText?
    rw [Numeral.ofText?, front] at read
    dsimp only at read
    rw [takeWhile_append_of_stop decimal stop, dropWhile_append_of_stop decimal stop] at read
    split at read
    case h_1 after point =>
      obtain ⟨rfl, -⟩ := List.cons.inj point
      exact .inl rfl
    case h_2 =>
      split at read
      case isTrue => cases read
      case isFalse =>
        obtain ⟨power, scaled, -⟩ := Option.map_eq_some_iff.mp read
        cases exponent?_eq_some_iff.mp scaled with
        | power letter => exact .inr letter

end Numeral

namespace Double

open Text

/-- The code point that is looked at where this one is written: an ASCII digit for the digits of all
scripts, a space for the blanks. -/
def plain (c : CodePoint) : CodePoint :=
  if c < 0x7F then c
  else match digitValue? c with
    | some d => 0x30 + d
    | none => if isBlank c then 0x20 else c

theorem simplified_eq_map (t : Text) : simplified t = t.map plain := rfl

theorem ne_underscore_of_isAsciiDigit {c : CodePoint} (digit : isAsciiDigit c = true) :
    c ≠ 0x5F := by
  rintro rfl
  exact absurd digit (by decide)

theorem not_isAsciiBlank_of_isAsciiDigit {c : CodePoint} (digit : isAsciiDigit c = true) :
    isAsciiBlank c = false := by
  have every : ∀ d < 10, isAsciiBlank (0x30 + d) = false := by decide
  obtain ⟨d, small, rfl⟩ := isAsciiDigit_iff.mp digit
  exact every d small

theorem plain_of_isAsciiDigit {c : CodePoint} (digit : isAsciiDigit c = true) : plain c = c := by
  have every : ∀ d < 10, plain (0x30 + d) = 0x30 + d := by decide
  obtain ⟨d, small, rfl⟩ := isAsciiDigit_iff.mp digit
  exact every d small

theorem simplified_of_digits {digits : Text} (decimal : ∀ c ∈ digits, isAsciiDigit c = true) :
    simplified digits = digits := by
  have same := List.map_congr_left fun c member => plain_of_isAsciiDigit (decimal c member)
  rw [simplified_eq_map, same, List.map_id']

theorem withoutUnderscores_cons {c : CodePoint} (other : c ≠ 0x5F) (before : CodePoint) (t : Text) :
    withoutUnderscores before (c :: t) = (withoutUnderscores c t).map (c :: ·) := by
  rw [withoutUnderscores.eq_def]
  split
  case h_1 empty => cases empty
  case h_2 underscore => exact absurd (List.cons.inj underscore).1 other
  case h_3 same =>
    obtain ⟨rfl, rfl⟩ := List.cons.inj same
    exact if_neg other

/-- Digits hold no underscores, and the last of them may stand before one. -/
theorem withoutUnderscores_append {digits : Text} (decimal : ∀ c ∈ digits, isAsciiDigit c = true)
    (before : CodePoint) (rest : Text) :
    withoutUnderscores before (digits ++ rest) =
      (withoutUnderscores (digits.getLastD before) rest).map (digits ++ ·) := by
  induction digits generalizing before with
  | nil => simp
  | cons d others ih =>
    obtain ⟨first, after⟩ := List.forall_mem_cons.mp decimal
    have other := ne_underscore_of_isAsciiDigit first
    rw [List.cons_append, withoutUnderscores_cons other, ih after, Option.map_map,
      List.getLastD_cons]
    rfl

/-- Underscores are taken out, and nothing else is. -/
theorem eq_filter_of_withoutUnderscores {before : CodePoint} {t body : Text}
    (taken : withoutUnderscores before t = some body) : body = t.filter (· != 0x5F) := by
  have kept {c : CodePoint} {rest more : Text} (other : c ≠ 0x5F)
      (ih : more = rest.filter (· != 0x5F)) : c :: more = (c :: rest).filter (· != 0x5F) := by
    rw [List.filter_cons_of_pos (by simpa using other), ih]
  fun_induction withoutUnderscores before t generalizing body with
  | case1 => exact (Option.some.inj taken).symm
  | case2 before c rest between ih =>
    obtain ⟨more, found, rfl⟩ := Option.map_eq_some_iff.mp taken
    have other : c ≠ 0x5F := ne_underscore_of_isAsciiDigit (Bool.and_eq_true_iff.mp between).2
    exact kept other (ih found)
  | case3 => cases taken
  | case4 => cases taken
  | case5 before c rest _ other ih =>
    obtain ⟨more, found, rfl⟩ := Option.map_eq_some_iff.mp taken
    exact kept other (ih found)

section Reading

variable {digits tail : Text} {x : Double}

theorem unsigned_of_digits (nonempty : digits ≠ [])
    (decimal : ∀ c ∈ digits, isAsciiDigit c = true) (rest : Text) :
    splitSign (digits ++ rest) = (false, digits ++ rest)
      ∧ ∀ c ∈ (digits ++ rest).head?, Numeral.isNumeralCode c = true := by
  obtain ⟨d, others, rfl⟩ := List.exists_cons_of_ne_nil nonempty
  have digit := decimal d List.mem_cons_self
  refine ⟨splitSign_append .none ?_, ?_⟩
  · rintro c ⟨rfl⟩
    exact ne_sign_of_isAsciiDigit digit
  · rintro c ⟨rfl⟩
    simp [Numeral.isNumeralCode, digit]

/-- A text that begins with digits is no word. -/
theorem ofText?_of_taken {t rest : Text} (nonempty : digits ≠ [])
    (decimal : ∀ c ∈ digits, isAsciiDigit c = true)
    (taken : withoutUnderscores 0 (trim isAsciiBlank (simplified t)) = some (digits ++ rest)) :
    ofText? t = (Numeral.ofText? (digits ++ rest)).map ofNumeral := by
  obtain ⟨unsigned, front⟩ := unsigned_of_digits nonempty decimal rest
  have noNan : (Numeral.foldCase (digits ++ rest) == "nan") = false := by
    refine beq_eq_false_iff_ne.mpr fun same => ?_
    exact absurd rfl (Numeral.foldCase_front front 0x6E (by rw [same]; rfl)).2.1
  rw [ofText?, taken]
  dsimp only
  rw [unsigned, Numeral.isInfinity_eq_false front, noNan]
  rfl

/-- What is read of a text that begins with digits: blanks at the end are lost, and without the
underscores the rest of it goes on as a numeral. -/
theorem exists_spells_of_ofText? (nonempty : digits ≠ [])
    (decimal : ∀ c ∈ digits, isAsciiDigit c = true) (read : ofText? (digits ++ tail) = some x) :
    ∃ kept lost more n, simplified tail = kept ++ lost ∧ (∀ c ∈ lost, isAsciiBlank c = true)
      ∧ withoutUnderscores (digits.getLastD 0) kept = some more
      ∧ Numeral.Spells (digits ++ more) n := by
  have noBlank : ∀ c ∈ digits, isAsciiBlank c = false := fun c member =>
    not_isAsciiBlank_of_isAsciiDigit (decimal c member)
  obtain ⟨kept, lost, parts, blank, trimmed⟩ :=
    exists_trim_append noBlank nonempty (simplified tail)
  have whole : trim isAsciiBlank (simplified (digits ++ tail)) = digits ++ kept := by
    rw [simplified_eq_map, List.map_append, ← simplified_eq_map, ← simplified_eq_map,
      simplified_of_digits decimal, trimmed]
  cases taken : withoutUnderscores (digits.getLastD 0) kept with
  | none =>
    rw [ofText?, whole, withoutUnderscores_append decimal, taken] at read
    cases read
  | some more =>
    have body : withoutUnderscores 0 (trim isAsciiBlank (simplified (digits ++ tail))) =
        some (digits ++ more) := by
      rw [whole, withoutUnderscores_append decimal, taken]
      rfl
    rw [ofText?_of_taken nonempty decimal body] at read
    obtain ⟨n, found, -⟩ := Option.map_eq_some_iff.mp read
    exact ⟨kept, lost, more, n, parts, blank, taken, Numeral.ofText?_eq_some_iff.mp found⟩

def Continues (c : CodePoint) : Prop :=
  isAsciiDigit c = true ∨ c = 0x5F ∨ c = 0x2E ∨ c = 0x65 ∨ c = 0x45

instance (c : CodePoint) : Decidable (Continues c) :=
  inferInstanceAs (Decidable (_ ∨ _ ∨ _ ∨ _ ∨ _))

/-- A text that is read as a number goes on after its first digits as numbers do, if not with
blanks to its end. -/
theorem next_of_ofText? {c : CodePoint} (nonempty : digits ≠ [])
    (decimal : ∀ d ∈ digits, isAsciiDigit d = true)
    (read : ofText? (digits ++ c :: tail) = some x) :
    Continues (plain c) ∨ ∀ d ∈ c :: tail, isAsciiBlank (plain d) = true := by
  obtain ⟨kept, lost, more, n, parts, blank, taken, spelled⟩ :=
    exists_spells_of_ofText? nonempty decimal read
  cases kept with
  | nil =>
    right
    intro d member
    refine blank (plain d) ?_
    rw [List.nil_append] at parts
    rw [← parts]
    exact List.mem_map_of_mem member
  | cons first others =>
    left
    rw [simplified_eq_map, List.map_cons] at parts
    obtain ⟨rfl, -⟩ := List.cons.inj parts
    by_cases underscore : plain c = 0x5F
    · exact .inr (.inl underscore)
    · rw [withoutUnderscores_cons underscore] at taken
      obtain ⟨rest, -, rfl⟩ := Option.map_eq_some_iff.mp taken
      obtain digit | mark := spelled.next nonempty decimal
      · exact .inl digit
      · exact .inr (.inr mark)

/-- Only what numerals are made of, underscores and blanks stand in a text that is read as a
number. -/
theorem codes_of_ofText? (nonempty : digits ≠ []) (decimal : ∀ c ∈ digits, isAsciiDigit c = true)
    (read : ofText? (digits ++ tail) = some x) : ∀ c ∈ tail,
      Numeral.isNumeralCode (plain c) = true ∨ plain c = 0x5F ∨ isAsciiBlank (plain c) = true := by
  obtain ⟨kept, lost, more, n, parts, blank, taken, spelled⟩ :=
    exists_spells_of_ofText? nonempty decimal read
  intro c member
  have place : plain c ∈ kept ++ lost := by
    rw [← parts]
    exact List.mem_map_of_mem member
  obtain here | atEnd := List.mem_append.mp place
  · by_cases underscore : plain c = 0x5F
    · exact .inr (.inl underscore)
    · left
      refine spelled.all _ (List.mem_append_right digits ?_)
      rw [eq_filter_of_withoutUnderscores taken]
      exact List.mem_filter.mpr ⟨here, by simpa using underscore⟩
  · exact .inr (.inr (blank _ atEnd))

/-- Digits alone are the number that they spell, and a few of them are read without rounding. -/
theorem ofText?_of_digits (nonempty : digits ≠ []) (few : digits.length ≤ 15)
    (decimal : ∀ c ∈ digits, isAsciiDigit c = true) :
    ∃ x, ofText? digits = some x ∧ x.toRat? = some (placeValue digits : Rat) := by
  have taken : withoutUnderscores 0 (trim isAsciiBlank (simplified digits)) =
      some (digits ++ []) := by
    rw [simplified_of_digits decimal,
      trim_eq_self fun c member => not_isAsciiBlank_of_isAsciiDigit (decimal c member)]
    have whole := withoutUnderscores_append decimal 0 []
    rwa [List.append_nil] at whole
  have spelled : Numeral.Spells digits ⟨false, placeValue digits, 0⟩ := by
    have whole := Numeral.Spells.of .none (.plain digits) (by rwa [List.append_nil])
      (by rwa [List.append_nil]) .none
    rw [List.nil_append, List.append_nil] at whole
    exact whole
  refine ⟨ofNumeral ⟨false, placeValue digits, 0⟩, ?_, ?_⟩
  · rw [ofText?_of_taken nonempty decimal taken, List.append_nil, spelled.ofText?]
    rfl
  · have small : placeValue digits < 10 ^ 15 := by
      rw [← toNat_eq_placeValue]
      exact (toNat_lt_pow decimal).trans_le (Nat.pow_le_pow_right (by decide) few)
    have length := (Decimal.digitCount_le_iff (by decide)).mpr small
    rw [Decimal.digitCount] at length
    rw [ofNumeral]
    dsimp only
    split
    case isTrue nothing =>
      have none : placeValue digits = 0 := by
        obtain none | low := nothing
        · exact none
        · omega
      rw [none, toRat?_zero, Nat.cast_zero]
    case isFalse =>
      rw [if_neg (by omega), if_pos le_rfl, Int.toNat_zero, Nat.pow_eq, pow_zero, mul_one]
      exact toRat?_ofRatio_natCast (small.trans (by decide))

end Reading

end Double

end TransferProof
