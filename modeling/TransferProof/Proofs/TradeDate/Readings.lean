import TransferProof.Proofs.Number.Leading
import TransferProof.Proofs.TradeDate.Instant

/-!
# Two readings of trade dates

A trade date is a number of seconds if it can be read as one, and only otherwise a date. Dates with
dashes or with weeks are never numbers. A compact date of eight digits is one, and so may be a text
that begins with eight digits and goes on as numerals do. Every other date tells its instant.
-/

namespace TransferProof.TradeDate

open Double

variable {t : Text} {m : Moment}

/-- A date without dashes and weeks takes eight digits. -/
theorem dateLength_eq_eight {year rest : Text} {c : CodePoint} (four : year.length = 4)
    (digit : Text.isAsciiDigit c = true) (long : 3 ≤ rest.length) :
    dateLength (year ++ c :: rest) = 8 := by
  have length : (year ++ c :: rest).length ≠ 7 := by
    rw [List.length_append, List.length_cons]
    omega
  have fifth : ((year ++ c :: rest).drop 4).headD 0 = c := by
    rw [← four, List.drop_left]
    rfl
  have noDash : c ≠ 0x2D := (Text.ne_sign_of_isAsciiDigit digit).2
  have noWeek : c ≠ 0x57 := by
    rintro rfl
    exact absurd digit (by decide)
  rw [dateLength]
  dsimp only
  rw [if_neg length, fifth, if_neg noDash, if_neg noWeek]

/-- A time of day holds digits. -/
theorem exists_digit_of_time? {time : Nat × Option Int} (read : time? t = some time) :
    ∃ c ∈ t, Text.isAsciiDigit c = true := by
  rw [time?] at read
  dsimp only at read
  split at read
  case h_1 => cases read
  case h_2 clock found =>
    rw [clock?] at found
    split at found
    case h_1 => cases found
    case h_2 value rest digits =>
      obtain ⟨run, parts, length, decimal, -⟩ := digits?_eq_some_iff.mp digits
      obtain ⟨c, others, rfl⟩ := List.exists_cons_of_length_pos (length.symm ▸ Nat.two_pos)
      have member : c ∈ c :: others ++ rest := List.mem_cons_self
      rw [← parts] at member
      exact ⟨c, List.takeWhile_subset _ member, decimal c List.mem_cons_self⟩

/-- After the date the text ends, or a time follows one code point later. -/
theorem date?_of_moment? (written : moment? t = some m) :
    date? (t.take (dateLength t)) = some m.day ∧ ∀ sep time, t.drop (dateLength t) = sep :: time →
      ∃ c ∈ time, Text.isAsciiDigit c = true := by
  rw [moment?] at written
  dsimp only at written
  split at written
  case h_1 => cases written
  case h_2 day _ read rest =>
    obtain rfl := Option.some.inj written
    rw [rest]
    exact ⟨read, fun sep time more => absurd more.symm (List.cons_ne_nil sep time)⟩
  case h_3 day sep time read rest =>
    split at written
    case isTrue =>
      obtain ⟨found, timed, rfl⟩ := Option.map_eq_some_iff.mp written
      rw [rest]
      refine ⟨read, ?_⟩
      rintro _ _ ⟨rfl, rfl⟩
      exact exists_digit_of_time? timed
    case isFalse => cases written

/-- What stands next to the digits at the front of a date: a dash after the year, the mark of a
week, or the end of the date and after one code point a time with digits in it. -/
theorem exists_front (written : moment? t = some m) :
    ∃ digits rest, t = digits ++ rest ∧ digits ≠ []
      ∧ (∀ c ∈ digits, Text.isAsciiDigit c = true)
      ∧ (rest.head? = some 0x2D ∨ rest.head? = some 0x57
        ∨ digits.length = 8 ∧ ∀ sep time, rest = sep :: time →
          ∃ c ∈ time, Text.isAsciiDigit c = true) := by
  obtain ⟨read, timed⟩ := date?_of_moment? written
  obtain ⟨value, dateRest, front, shape, -⟩ := date?_cases read
  obtain ⟨year, parts, four, decimal, -⟩ := digits?_eq_some_iff.mp front
  have whole : t = year ++ (dateRest ++ t.drop (dateLength t)) := by
    rw [← List.append_assoc, ← parts, List.take_append_drop]
  have nonempty : year ≠ [] := List.ne_nil_of_length_pos (four ▸ by decide)
  obtain dash | week | ⟨month, monthless, d, dayless, first, second⟩ := shape
  · refine ⟨year, _, whole, nonempty, decimal, .inl ?_⟩
    rw [List.head?_append, dash, Option.some_or]
  · refine ⟨year, _, whole, nonempty, decimal, .inr (.inl ?_)⟩
    rw [List.head?_append, week, Option.some_or]
  · obtain ⟨months, rfl, twoMonths, decimalMonths, -⟩ := digits?_eq_some_iff.mp first
    obtain ⟨days, rfl, twoDays, decimalDays, -⟩ := digits?_eq_some_iff.mp second
    obtain ⟨c, others, rfl⟩ := List.exists_cons_of_length_pos (twoMonths.symm ▸ Nat.two_pos)
    have eight : dateLength t = 8 := by
      rw [whole, List.cons_append, List.cons_append]
      refine dateLength_eq_eight four (decimalMonths c List.mem_cons_self) ?_
      rw [List.length_cons] at twoMonths
      simp only [List.length_append]
      omega
    have none : dayless = [] := by
      have atMost := List.length_take_le 8 t
      rw [eight] at parts
      rw [parts] at atMost
      simp only [List.length_append, four, twoMonths, twoDays] at atMost
      exact List.eq_nil_of_length_eq_zero (by omega)
    subst none
    rw [List.append_nil] at whole
    refine ⟨year ++ (c :: others ++ days), _, by rw [List.append_assoc]; exact whole, ?_, ?_,
      .inr (.inr ⟨?_, timed⟩)⟩
    · simp
    · exact List.forall_mem_append.mpr ⟨decimal,
        List.forall_mem_append.mpr ⟨decimalMonths, decimalDays⟩⟩
    · rw [List.length_append, List.length_append, four, twoMonths, twoDays]

/-- The text begins with eight digits, and if it goes on it does so as a number may, with nothing
that does not stand in numbers. -/
def Compact (t : Text) : Prop :=
  ∃ digits rest, t = digits ++ rest ∧ digits.length = 8
    ∧ (∀ c ∈ digits, Text.isAsciiDigit c = true)
    ∧ (∀ c ∈ rest.head?, Continues (plain c))
    ∧ ∀ c ∈ rest, Numeral.isNumeralCode (plain c) = true ∨ plain c = 0x5F
      ∨ Text.isAsciiBlank (plain c) = true

/-- No other date is read as a number. -/
theorem compact_of_read {x : Double} (written : moment? t = some m)
    (read : Double.ofText? t = some x) : Compact t := by
  obtain ⟨digits, rest, rfl, nonempty, decimal, next⟩ := exists_front written
  have stands {c : CodePoint} (first : rest.head? = some c) :
      Continues (plain c) ∨ ∀ d ∈ rest, Text.isAsciiBlank (plain d) = true := by
    obtain ⟨others, rfl⟩ := List.head?_eq_some_iff.mp first
    exact next_of_ofText? nonempty decimal read
  obtain dash | week | ⟨eight, timed⟩ := next
  · obtain wrong | blank := stands dash
    · exact absurd wrong (by decide)
    · exact absurd (blank _ (List.mem_of_mem_head? dash)) (by decide)
  · obtain wrong | blank := stands week
    · exact absurd wrong (by decide)
    · exact absurd (blank _ (List.mem_of_mem_head? week)) (by decide)
  · refine ⟨digits, rest, rfl, eight, decimal, fun c first => ?_,
      codes_of_ofText? nonempty decimal read⟩
    obtain goes | blank := stands first
    · exact goes
    · -- The time after it would be blank too.
      obtain ⟨time, rfl⟩ := List.head?_eq_some_iff.mp first
      obtain ⟨d, member, digit⟩ := timed c time rfl
      have wrong := blank d (List.mem_cons_of_mem c member)
      rw [plain_of_isAsciiDigit digit, not_isAsciiBlank_of_isAsciiDigit digit] at wrong
      cases wrong

theorem ofText_of_moment? (now : Double) (written : moment? t = some m) :
    ofText now t = (Double.ofText? t).or m.seconds? := by
  have some : t ≠ [] := by
    rintro rfl
    cases written
  rw [ofText, if_neg some, written]
  cases Double.ofText? t <;> rfl

/-- A date that cannot be read as a number tells its instant, but for the first day without a
distance from Greenwich, which is refused. What can be read as a number is this number, and such a
date is compact; eight digits alone always are their number. -/
theorem reading_of_moment (now : Double) (written : moment? t = some m) :
    (Double.ofText? t = none →
        (m.distance = none ∧ m.day = 1 ∧ ofText now t = none)
          ∨ ((m.distance = none → m.day ≠ 1) ∧ ∃ x, ofText now t = some x ∧ Tells x m.instant))
      ∧ (∀ x, Double.ofText? t = some x → ofText now t = some x ∧ Compact t)
      ∧ (t.length = 8 → (∀ c ∈ t, Text.isAsciiDigit c = true) →
        ∃ x, ofText now t = some x ∧ x.toRat? = some (Text.placeValue t : Rat)) := by
  have value := ofText_of_moment? now written
  refine ⟨fun noNumber => ?_, fun x read => ⟨?_, compact_of_read written read⟩,
    fun eight decimal => ?_⟩
  · rw [value, noNumber, Option.none_or]
    obtain ⟨refused, away, first⟩ | told := seconds?_cases (bounded_of_moment? written)
    · exact .inl ⟨away, first, refused⟩
    · exact .inr told
  · rw [value, read, Option.some_or]
  · obtain ⟨x, read, same⟩ := ofText?_of_digits (List.ne_nil_of_length_pos (eight ▸ by decide))
      (eight ▸ by decide) decimal
    exact ⟨x, by rw [value, read, Option.some_or], same⟩

section Spellings

/-- A second of September 2020. -/
theorem reading_of_moment_dashed :
    moment? "2020-09-13T12:26:40+00:00" = some ⟨737681, 44800000000, some 0⟩
      ∧ ∃ x, ofText (.zero false) "2020-09-13T12:26:40+00:00" = some x ∧ Tells x 1600000000 := by
  have written : moment? "2020-09-13T12:26:40+00:00" = some ⟨737681, 44800000000, some 0⟩ := by
    decide +kernel
  have instant : Moment.instant ⟨737681, 44800000000, some 0⟩ = 1600000000 := by
    norm_num [Moment.instant, Calendar.epochDay_eq, daySeconds, micro]
  refine ⟨written, ?_⟩
  obtain ⟨-, late, -⟩ | ⟨-, told⟩ := (reading_of_moment (.zero false) written).1 (by decide +kernel)
  · exact absurd late (by decide)
  · rwa [instant] at told

/-- The same day in eight digits is a number, and not its instant. A date on the first of all days
is refused, although it stands for an instant too. -/
theorem compact_date_is_no_instant :
    (∃ m, moment? "20200913" = some m ∧ m.instant = 1599955200
        ∧ ∀ now, ∃ x, ofText now "20200913" = some x ∧ x.toRat? = some 20200913
          ∧ ¬ Tells x m.instant)
      ∧ ∃ m, moment? "0001-01-01" = some m ∧ m.instant = -62135596800
        ∧ ∀ now, ofText now "0001-01-01" = none := by
  constructor
  · have written : moment? "20200913" = some ⟨737681, 0, none⟩ := by decide +kernel
    have instant : Moment.instant ⟨737681, 0, none⟩ = 1599955200 := by
      norm_num [Moment.instant, Calendar.epochDay_eq, daySeconds, micro]
    refine ⟨_, written, instant, fun now => ?_⟩
    obtain ⟨x, read, value⟩ := ofText?_of_digits (by decide : Text.ofString "20200913" ≠ [])
      (by decide) (by decide)
    have number : Text.placeValue "20200913" = 20200913 := by decide
    rw [number] at value
    refine ⟨x, ?_, by exact_mod_cast value, ?_⟩
    · rw [ofText_of_moment? now written, read, Option.some_or]
    · rintro ⟨q, found, -, whole⟩
      have told := whole 1599955200 (by exact_mod_cast instant)
      rw [Option.some.inj (found.symm.trans value)] at told
      norm_num at told
  · have written : moment? "0001-01-01" = some ⟨1, 0, none⟩ := by decide +kernel
    have noNumber : Double.ofText? "0001-01-01" = none := by decide +kernel
    refine ⟨_, written, ?_, fun now => ?_⟩
    · norm_num [Moment.instant, Calendar.epochDay_eq, daySeconds, micro]
    · rw [ofText_of_moment? now written, noNumber]
      rfl

end Spellings

end TransferProof.TradeDate
