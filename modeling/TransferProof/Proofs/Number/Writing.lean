import Mathlib.Data.List.TakeWhile
import Mathlib.Data.Nat.Digits.Defs
import TransferProof.Number.Decimal
import TransferProof.Proofs.Text.Splitting

/-!
# Numbers as they are written

A numeral is a sign, digits with at most one point between them, and a power of ten. What it stands
for follows from the places of its digits. The reader takes exactly these texts and finds in each
what is written there; blanks around a decimal number, underscores and the script of its digits
make no difference.
-/

namespace TransferProof

namespace Text

/-- The number that decimal digits spell by their places, the last of them counting ones. -/
def placeValue (digits : Text) : Nat :=
  Nat.ofDigits 10 (digits.map (· - 0x30)).reverse

theorem toNat_eq_placeValue (digits : Text) : toNat digits = placeValue digits := by
  rw [toNat, placeValue, Nat.ofDigits_eq_foldr, List.foldr_reverse, List.foldl_map]
  simp [Nat.add_comm]

inductive Sign : Text → Bool → Prop where
  | none : Sign [] false
  | plus : Sign [0x2B] false
  | minus : Sign [0x2D] true

theorem exists_sign (t : Text) :
    ∃ sign body negative, t = sign ++ body ∧ Sign sign negative
      ∧ splitSign t = (negative, body) := by
  unfold splitSign
  split
  · exact ⟨[0x2B], _, false, rfl, .plus, rfl⟩
  · exact ⟨[0x2D], _, true, rfl, .minus, rfl⟩
  · exact ⟨[], _, false, rfl, .none, rfl⟩

/-- Only a sign that stands at the front is taken off. -/
theorem splitSign_append {sign t : Text} {negative : Bool} (signed : Sign sign negative)
    (unsigned : ∀ c ∈ t.head?, c ≠ 0x2B ∧ c ≠ 0x2D) : splitSign (sign ++ t) = (negative, t) := by
  cases signed with
  | plus => rfl
  | minus => rfl
  | none =>
    rw [List.nil_append]
    unfold splitSign
    split
    · exact absurd rfl (unsigned 0x2B rfl).1
    · exact absurd rfl (unsigned 0x2D rfl).2
    · rfl

theorem ne_sign_of_isAsciiDigit {c : CodePoint} (digit : isAsciiDigit c = true) :
    c ≠ 0x2B ∧ c ≠ 0x2D := by
  constructor
  · rintro rfl
    exact absurd digit (by decide)
  · rintro rfl
    exact absurd digit (by decide)

end Text

namespace Numeral

open Text

def value (n : Numeral) : Rat :=
  (if n.negative then -1 else 1) * (n.coefficient * 10 ^ n.exponent)

/-- The digits of a numeral: those before the point and those after it, if there is one. -/
inductive Figures : Text → Text → Text → Prop where
  | plain (whole : Text) : Figures whole whole []
  | pointed (whole places : Text) : Figures (whole ++ 0x2E :: places) whole places

/-- The end of a numeral, and the power of ten that it stands for. -/
inductive Scale : Text → Int → Prop where
  | none : Scale [] 0
  | power {mark : CodePoint} {sign digits : Text} {negative : Bool}
      (letter : mark = 0x65 ∨ mark = 0x45) (signed : Sign sign negative) (some : digits ≠ [])
      (decimal : ∀ c ∈ digits, isAsciiDigit c = true) :
      Scale (mark :: (sign ++ digits))
        (if negative then -(placeValue digits : Int) else placeValue digits)

/-- The text spells this numeral: all its digits together are the coefficient, and each place after
the point takes one from the power of ten. -/
inductive Spells : Text → Numeral → Prop where
  | of {sign figures whole places tail : Text} {negative : Bool} {power : Int}
      (signed : Sign sign negative) (shown : Figures figures whole places)
      (some : whole ++ places ≠ []) (decimal : ∀ c ∈ whole ++ places, isAsciiDigit c = true)
      (scaled : Scale tail power) :
      Spells (sign ++ (figures ++ tail))
        ⟨negative, placeValue (whole ++ places), power - places.length⟩

theorem exponent?_eq_some_iff {tail : Text} {power : Int} :
    exponent? tail = some power ↔ Scale tail power := by
  constructor
  · intro read
    cases tail with
    | nil =>
      obtain rfl := Option.some.inj read
      exact .none
    | cons mark rest =>
      obtain ⟨sign, digits, negative, rfl, signed, taken⟩ := exists_sign rest
      rw [exponent?, taken] at read
      dsimp only at read
      split at read
      case isFalse => cases read
      case isTrue letter =>
        split at read
        case isFalse => cases read
        case isTrue run =>
          obtain rfl := Option.some.inj read
          rw [toNat_eq_placeValue]
          exact .power letter signed run.1 (List.all_eq_true.mp run.2)
  · intro scaled
    cases scaled with
    | none => rfl
    | @power mark sign digits negative letter signed some decimal =>
      have unsigned : ∀ c ∈ digits.head?, c ≠ 0x2B ∧ c ≠ 0x2D := fun c first =>
        ne_sign_of_isAsciiDigit (decimal c (List.mem_of_mem_head? first))
      rw [exponent?, if_pos letter, splitSign_append signed unsigned]
      dsimp only
      rw [if_pos ⟨some, List.all_eq_true.mpr decimal⟩, toNat_eq_placeValue]

/-- What follows the digits is no digit. -/
theorem Scale.stop {tail : Text} {power : Int} (scaled : Scale tail power) :
    ∀ c ∈ tail.head?, isAsciiDigit c = false := by
  cases scaled with
  | none => exact fun _ impossible => nomatch impossible
  | power letter signed some decimal =>
    rintro c ⟨rfl⟩
    rcases letter with rfl | rfl <;> decide

/-- What a reader does that has found the sign, the digits and the rest. -/
theorem spells_of_read {sign figures whole places tail : Text} {negative : Bool} {n : Numeral}
    (signed : Sign sign negative) (shown : Figures figures whole places)
    (decimal : ∀ c ∈ whole ++ places, isAsciiDigit c = true)
    (read : (if whole ++ places = [] then none
      else (exponent? tail).map fun e =>
        ⟨negative, Text.toNat (whole ++ places), e - places.length⟩) = some n) :
    Spells (sign ++ (figures ++ tail)) n := by
  split at read
  case isTrue => cases read
  case isFalse some =>
    obtain ⟨power, scaled, rfl⟩ := Option.map_eq_some_iff.mp read
    rw [toNat_eq_placeValue]
    exact .of signed shown some decimal (exponent?_eq_some_iff.mp scaled)

theorem Spells.of_ofText? {t : Text} {n : Numeral} (read : ofText? t = some n) : Spells t n := by
  obtain ⟨sign, body, negative, rfl, signed, taken⟩ := exists_sign t
  have parts : body.takeWhile isAsciiDigit ++ body.dropWhile isAsciiDigit = body :=
    List.takeWhile_append_dropWhile
  have decimal : ∀ c ∈ body.takeWhile isAsciiDigit, isAsciiDigit c = true :=
    fun c member => List.mem_takeWhile_imp member
  rw [ofText?, taken] at read
  dsimp only at read
  generalize body.takeWhile isAsciiDigit = whole at *
  generalize body.dropWhile isAsciiDigit = after at *
  subst parts
  split at read
  case h_1 rest =>
    have pointed : whole ++ 0x2E :: rest =
        whole ++ 0x2E :: rest.takeWhile isAsciiDigit ++ rest.dropWhile isAsciiDigit := by
      rw [List.append_assoc, List.cons_append, List.takeWhile_append_dropWhile]
    rw [pointed]
    refine spells_of_read signed (.pointed _ _) ?_ read
    exact List.forall_mem_append.mpr ⟨decimal, fun c member => List.mem_takeWhile_imp member⟩
  case h_2 =>
    refine spells_of_read signed (.plain _) ?_ read
    rwa [List.append_nil]

/-- The digits of a numeral are not taken for a sign. -/
theorem Figures.unsigned {figures whole places : Text} (shown : Figures figures whole places)
    (some : whole ++ places ≠ []) (decimal : ∀ c ∈ whole ++ places, isAsciiDigit c = true)
    (tail : Text) : ∀ c ∈ (figures ++ tail).head?, c ≠ 0x2B ∧ c ≠ 0x2D := by
  have begun {c : CodePoint} {others rest : Text} (here : whole = c :: others) :
      ∀ d ∈ (whole ++ rest).head?, d ≠ 0x2B ∧ d ≠ 0x2D := by
    subst here
    rintro d ⟨rfl⟩
    exact ne_sign_of_isAsciiDigit (decimal c (List.mem_append_left _ List.mem_cons_self))
  cases shown with
  | plain whole =>
    rw [List.append_nil] at some
    obtain ⟨c, others, here⟩ := List.exists_cons_of_ne_nil some
    exact begun here
  | pointed whole places =>
    cases here : whole with
    | nil =>
      rintro d ⟨rfl⟩
      decide
    | cons c others =>
      rw [List.append_assoc, ← here]
      exact begun here

theorem Spells.ofText? {t : Text} {n : Numeral} (spelled : Spells t n) : ofText? t = some n := by
  cases spelled with
  | @of sign figures whole places tail negative power signed shown some decimal scaled =>
    obtain ⟨before, after⟩ := List.forall_mem_append.mp decimal
    rw [Numeral.ofText?, splitSign_append signed (shown.unsigned some decimal tail)]
    cases shown with
    | plain whole =>
      dsimp only
      rw [takeWhile_append_of_stop before scaled.stop, dropWhile_append_of_stop before scaled.stop]
      split
      case h_1 rest point =>
        -- The rest begins with the mark of a power of ten, if with anything.
        cases scaled with
        | power letter => simp at letter
      case h_2 =>
        rw [if_neg some, exponent?_eq_some_iff.mpr scaled, toNat_eq_placeValue]
        rfl
    | pointed whole places =>
      have point : ∀ c ∈ (0x2E :: (places ++ tail)).head?, isAsciiDigit c = false := by
        rintro c ⟨rfl⟩
        decide
      rw [List.append_assoc, List.cons_append]
      simp only [takeWhile_append_of_stop before point, dropWhile_append_of_stop before point,
        takeWhile_append_of_stop after scaled.stop, dropWhile_append_of_stop after scaled.stop]
      rw [if_neg some, exponent?_eq_some_iff.mpr scaled, toNat_eq_placeValue]
      rfl

/-- A text is read as a numeral exactly if it spells it. -/
theorem ofText?_eq_some_iff {t : Text} {n : Numeral} : ofText? t = some n ↔ Spells t n :=
  ⟨Spells.of_ofText?, Spells.ofText?⟩

def isNumeralCode (c : CodePoint) : Bool :=
  isAsciiDigit c || c == 0x2B || c == 0x2D || c == 0x2E || c == 0x45 || c == 0x65

theorem lt_of_isNumeralCode {c : CodePoint} (code : isNumeralCode c = true) : c < 0x80 := by
  simp [isNumeralCode, isAsciiDigit] at code
  grind

theorem Spells.all {t : Text} {n : Numeral} (spelled : Spells t n) :
    ∀ c ∈ t, isNumeralCode c = true := by
  have digit {c : CodePoint} (decimal : isAsciiDigit c = true) : isNumeralCode c = true := by
    simp [isNumeralCode, decimal]
  have sign_all {sign : Text} {negative : Bool} (signed : Sign sign negative) :
      ∀ c ∈ sign, isNumeralCode c = true := by
    cases signed <;> decide
  cases spelled with
  | @of sign figures whole places tail negative power signed shown some decimal scaled =>
    obtain ⟨before, after⟩ := List.forall_mem_append.mp decimal
    have figures_all : ∀ c ∈ figures, isNumeralCode c = true := by
      cases shown with
      | plain => exact fun c member => digit (before c member)
      | pointed =>
        refine List.forall_mem_append.mpr ⟨fun c member => digit (before c member), ?_⟩
        exact List.forall_mem_cons.mpr ⟨by decide, fun c member => digit (after c member)⟩
    have tail_all : ∀ c ∈ tail, isNumeralCode c = true := by
      cases scaled with
      | none => exact nofun
      | power letter signed _ digits =>
        refine List.forall_mem_cons.mpr ⟨?_, List.forall_mem_append.mpr ⟨sign_all signed, ?_⟩⟩
        · obtain rfl | rfl := letter <;> decide
        · exact fun c member => digit (digits c member)
    exact List.forall_mem_append.mpr ⟨sign_all signed,
      List.forall_mem_append.mpr ⟨figures_all, tail_all⟩⟩

section Words

variable {word : Text}

/-- The words for what is no finite number begin with other letters. -/
theorem foldCase_front (front : ∀ c ∈ word.head?, isNumeralCode c = true) :
    ∀ c ∈ (foldCase word).head?, c ≠ 0x69 ∧ c ≠ 0x6E ∧ c ≠ 0x73 := by
  have every : ∀ c < 0x80, isNumeralCode c = true →
      (if 0x41 ≤ c ∧ c ≤ 0x5A then c + 0x20 else c) ∉ [0x69, 0x6E, 0x73] := by decide
  cases word with
  | nil => exact nofun
  | cons c rest =>
    rintro d ⟨rfl⟩
    simpa using every c (lt_of_isNumeralCode (front c rfl)) (front c rfl)

theorem isInfinity_eq_false (front : ∀ c ∈ word.head?, isNumeralCode c = true) :
    isInfinity word = false := by
  have letters := foldCase_front front
  rw [isInfinity, Bool.or_eq_false_iff, beq_eq_false_iff_ne, beq_eq_false_iff_ne]
  constructor
  · intro same
    exact absurd rfl (letters 0x69 (by rw [same]; rfl)).1
  · intro same
    exact absurd rfl (letters 0x69 (by rw [same]; rfl)).1

end Words

end Numeral

namespace Decimal

/-- The text writes this numeral, with blanks around it or without, with or without underscores, and
in the digits of any script. -/
def Writes (t : Text) (n : Numeral) : Prop :=
  Numeral.Spells (simplified (Text.trim Text.isBlank t)) n

theorem isNan_eq_false {word : Text} (front : ∀ c ∈ word.head?, Numeral.isNumeralCode c = true) :
    isNan word = false := by
  have letters := Numeral.foldCase_front front
  have other {name : Text} (c : CodePoint) (first : name.head? = some c)
      (letter : ∀ d ∈ (Numeral.foldCase word).head?, d ≠ c) :
      name.isPrefixOf (Numeral.foldCase word) = false := by
    obtain ⟨rest, rfl⟩ := List.head?_eq_some_iff.mp first
    cases folded : Numeral.foldCase word with
    | nil => rfl
    | cons d more =>
      have first : (Numeral.foldCase word).head? = some d := by
        rw [folded]
        rfl
      have differ : (c == d) = false := beq_eq_false_iff_ne.mpr (letter d first).symm
      rw [List.isPrefixOf_cons_cons, differ, Bool.false_and]
  rw [isNan, List.any_cons, List.any_cons, List.any_nil,
    other 0x6E rfl fun d here => (letters d here).2.1,
    other 0x73 rfl fun d here => (letters d here).2.2]
  rfl

/-- A text is read as a finite number exactly if it writes this number, and no power of ten in it is
out of bounds. -/
theorem ofText?_eq_finite_iff {t : Text} {n : Numeral} :
    ofText? t = some (.finite n) ↔ Writes t n ∧ fits n = true := by
  rw [ofText?, Writes, ← Numeral.ofText?_eq_some_iff]
  dsimp only
  generalize simplified (Text.trim Text.isBlank t) = body
  constructor
  · intro read
    split at read
    · cases read
    · split at read
      · cases read
      · split at read
        case h_1 k found =>
          split at read
          case isTrue within =>
            obtain rfl := Decimal.finite.inj (Option.some.inj read)
            exact ⟨found, within⟩
          case isFalse => cases read
        case h_2 => cases read
  · rintro ⟨found, within⟩
    have codes := (Numeral.ofText?_eq_some_iff.mp found).all
    obtain ⟨sign, word, negative, rfl, -, taken⟩ := Text.exists_sign body
    have front : ∀ c ∈ word.head?, Numeral.isNumeralCode c = true := fun c first =>
      codes c (List.mem_append_right sign (List.mem_of_mem_head? first))
    rw [taken, Numeral.isInfinity_eq_false front, isNan_eq_false front, found]
    simp [within]

/-- A text that is read as a finite number writes this number and no other. -/
theorem writes_iff_of_ofText? {t : Text} {n : Numeral} (read : ofText? t = some (.finite n))
    (m : Numeral) : Writes t m ↔ m = n := by
  have spelled := (ofText?_eq_finite_iff.mp read).1
  rw [Writes, ← Numeral.ofText?_eq_some_iff] at spelled ⊢
  rw [spelled, Option.some.injEq, eq_comm]

end Decimal

end TransferProof
