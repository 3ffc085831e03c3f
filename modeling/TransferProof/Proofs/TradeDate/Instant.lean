import TransferProof.Proofs.Number.Nearest
import TransferProof.Proofs.Text.Digits
import TransferProof.TradeDate

/-!
# Instants of trade dates

A moment that is written as a date stands for an instant, counted in seconds from the epoch. All its
parts are within bounds, so a double comes as close to the instant as doubles do in its place; whole
seconds are exact.
-/

namespace TransferProof

namespace Calendar

theorem daysInMonth_le (year month : Nat) : daysInMonth year month ≤ 31 := by
  rw [daysInMonth]
  split
  · split
    · decide
    · decide
  · split
    · decide
    · decide

theorem daysBeforeMonth_le (year month : Nat) : daysBeforeMonth year month ≤ 31 * (month - 1) := by
  rw [daysBeforeMonth]
  generalize month - 1 = months
  induction months with
  | zero => rfl
  | succ months ih =>
    have last := daysInMonth_le year (months + 1)
    rw [List.range_succ, List.foldl_append, List.foldl_cons, List.foldl_nil]
    omega

theorem epochDay_eq : epochDay = 719163 := by decide

def dayBound : Nat := 4000000

theorem dayOfMonth?_lt {year month day found : Nat} (h : dayOfMonth? year month day = some found) :
    found < dayBound := by
  rw [dayOfMonth?] at h
  split at h
  case isFalse => cases h
  case isTrue within =>
    obtain ⟨-, years, -, months, -, days⟩ := within
    obtain rfl := Option.some.inj h
    have inMonth := daysInMonth_le year month
    have beforeMonth := daysBeforeMonth_le year month
    rw [lastYear] at years
    rw [daysBeforeYear, dayBound]
    omega

theorem dayOfWeek?_lt {year week day found : Nat} (h : dayOfWeek? year week day = some found) :
    found < dayBound := by
  have last : (lastDay : Int) < dayBound := by decide
  rw [dayOfWeek?] at h
  split at h
  case isFalse => cases h
  case isTrue =>
    dsimp only at h
    split at h
    case isFalse => cases h
    case isTrue within =>
      obtain rfl := Option.some.inj h
      omega

end Calendar

namespace TradeDate

open Calendar

variable {t rest : Text} {count value day : Nat}

theorem digits?_eq_some_iff : digits? count t = some (value, rest) ↔
    ∃ run, t = run ++ rest ∧ run.length = count ∧ (∀ c ∈ run, Text.isAsciiDigit c = true)
      ∧ value = Text.toNat run := by
  rw [digits?]
  constructor
  · intro read
    split at read
    case isFalse => cases read
    case isTrue taken =>
      obtain ⟨rfl, rfl⟩ := Prod.mk.inj (Option.some.inj read)
      exact ⟨t.take count, (List.take_append_drop count t).symm, taken.1,
        List.all_eq_true.mp taken.2, rfl⟩
  · rintro ⟨run, rfl, rfl, decimal, rfl⟩
    rw [List.take_left, List.drop_left]
    exact if_pos ⟨rfl, List.all_eq_true.mpr decimal⟩

/-- A date begins with four digits. A dash follows, or the mark of a week, or four more digits. -/
theorem date?_cases (read : date? t = some day) :
    ∃ year rest, digits? 4 t = some (year, rest)
      ∧ (rest.head? = some 0x2D ∨ rest.head? = some 0x57
        ∨ ∃ month monthless d dayless, digits? 2 rest = some (month, monthless)
          ∧ digits? 2 monthless = some (d, dayless))
      ∧ ((∃ week d, dayOfWeek? year week d = some day)
        ∨ ∃ month d, dayOfMonth? year month d = some day) := by
  simp only [date?, Option.bind_eq_bind, Option.bind_eq_some_iff, Prod.exists] at read
  obtain ⟨year, rest, front, read⟩ := read
  refine ⟨year, rest, front, ?_⟩
  split at read
  case h_1 _ _ weekly =>
    simp only [Option.bind_eq_some_iff, Prod.exists] at read
    obtain ⟨week, weekless, -, read⟩ := read
    refine ⟨?_, .inl ?_⟩
    · split at weekly
      · exact .inl rfl
      · exact .inr (.inl (congrArg List.head? weekly))
    · split at read
      · exact ⟨week, 1, read⟩
      · simp only [Option.bind_eq_some_iff, Prod.exists] at read
        obtain ⟨_, -, d, _, -, read⟩ := read
        exact ⟨week, d, read⟩
  case h_2 =>
    simp only [Option.bind_eq_some_iff, Prod.exists] at read
    obtain ⟨month, monthless, first, dashless, dashed, d, dayless, second, read⟩ := read
    refine ⟨?_, .inr ⟨month, d, read⟩⟩
    split at first
    · exact .inl rfl
    · obtain rfl : monthless = dashless := by simpa using dashed
      exact .inr (.inr ⟨month, monthless, d, dayless, first, second⟩)

theorem date?_lt (read : date? t = some day) : day < dayBound := by
  obtain ⟨year, rest, -, -, ⟨week, d, found⟩ | ⟨month, d, found⟩⟩ := date?_cases read
  · exact dayOfWeek?_lt found
  · exact dayOfMonth?_lt found

theorem fraction?_lt {clock read : Clock} (h : fraction? clock t = some read) :
    read.micros < micro := by
  obtain ⟨⟨value, rest⟩, digits, rfl⟩ := Option.map_eq_some_iff.mp h
  obtain ⟨run, -, length, decimal, rfl⟩ := digits?_eq_some_iff.mp digits
  have less := Text.toNat_lt_pow decimal
  rw [length] at less
  have six : min 6 t.length + (6 - min 6 t.length) = 6 := by omega
  calc Text.toNat run * Nat.pow 10 (6 - min 6 t.length)
      < 10 ^ min 6 t.length * 10 ^ (6 - min 6 t.length) :=
        Nat.mul_lt_mul_of_pos_right less (Nat.pow_pos (by decide))
    _ = 10 ^ 6 := by rw [← pow_add, six]

theorem clock?_lt {clock read : Clock} {colons : Bool} {left : Nat} (some : clock.micros < micro)
    (h : clock? clock colons left t = Option.some read) : read.micros < micro := by
  induction left generalizing clock colons t with
  | zero => exact fraction?_lt h
  | succ left ih =>
    rw [clock?] at h
    split at h
    case h_1 => cases h
    case h_2 value rest digits =>
      extract_lets next at h
      have kept : next.micros < micro := by
        subst next
        split <;> exact some
      clear_value next
      split at h
      case h_1 =>
        obtain rfl := Option.some.inj h
        exact kept
      case h_2 mark =>
        split at h
        case isTrue =>
          obtain rfl := Option.some.inj h
          exact kept
        case isFalse => cases h
      case h_3 mark more _ =>
        extract_lets apart at h
        clear_value apart
        split at h
        case isTrue => exact ih kept h
        case isFalse =>
          split at h
          case isTrue => exact fraction?_lt h
          case isFalse =>
            split at h
            case isTrue => cases h
            case isFalse => exact ih kept h

theorem clock_total_lt {clock : Clock} (hours : clock.hours < 24) (minutes : clock.minutes < 60)
    (seconds : clock.seconds < 60) (micros : clock.micros < micro) :
    clock.total < daySeconds * micro := by
  rw [Clock.total, daySeconds]
  rw [micro] at *
  omega

theorem distance?_lt {sign : CodePoint} {distance : Int} (h : distance? sign t = some distance) :
    |distance| < (daySeconds * micro : Nat) := by
  rw [distance?] at h
  split at h
  case isTrue =>
    split at h
    case isTrue =>
      obtain rfl := Option.some.inj h
      decide
    case isFalse => cases h
  case isFalse =>
    split at h
    case h_1 => cases h
    case h_2 clock read =>
      split at h
      case isFalse => cases h
      case isTrue within =>
        split at h
        case isTrue =>
          obtain rfl := Option.some.inj h
          decide
        case isFalse =>
          obtain rfl := Option.some.inj h
          have less := within.2
          split
          · rw [abs_neg, Nat.abs_cast]
            exact_mod_cast less
          · rw [Nat.abs_cast]
            exact_mod_cast less

structure Moment.Bounded (m : Moment) : Prop where
  day : m.day < dayBound
  time : m.time < daySeconds * micro
  distance : ∀ d ∈ m.distance, |d| < (daySeconds * micro : Nat)

theorem time?_lt {time : Nat} {distance : Option Int} (h : time? t = some (time, distance)) :
    time < daySeconds * micro ∧ ∀ d ∈ distance, |d| < (daySeconds * micro : Nat) := by
  rw [time?] at h
  dsimp only at h
  split at h
  case h_1 => cases h
  case h_2 clock read =>
    split at h
    case isFalse => cases h
    case isTrue within =>
      have bounded := clock_total_lt within.1 within.2.1 within.2.2 (clock?_lt (by decide) read)
      split at h
      case h_1 =>
        split at h
        case isTrue =>
          obtain ⟨rfl, rfl⟩ := Prod.mk.inj (Option.some.inj h)
          exact ⟨bounded, nofun⟩
        case isFalse => cases h
      case h_2 sign rest =>
        obtain ⟨d, found, same⟩ := Option.map_eq_some_iff.mp h
        obtain ⟨rfl, rfl⟩ := Prod.mk.inj same
        refine ⟨bounded, ?_⟩
        rintro d ⟨rfl⟩
        exact distance?_lt found

theorem bounded_of_moment? {m : Moment} (written : moment? t = some m) : m.Bounded := by
  rw [moment?] at written
  dsimp only at written
  split at written
  case h_1 => cases written
  case h_2 day _ read rest =>
    obtain rfl := Option.some.inj written
    exact ⟨date?_lt read, (by decide : 0 < daySeconds * micro), nofun⟩
  case h_3 day sep rest read _ =>
    split at written
    case isTrue =>
      obtain ⟨⟨time, distance⟩, found, rfl⟩ := Option.map_eq_some_iff.mp written
      exact ⟨date?_lt read, (time?_lt found).1, (time?_lt found).2⟩
    case isFalse => cases written

/-- The seconds from the epoch to the moment; without a distance it is in Greenwich time. -/
def Moment.instant (m : Moment) : Rat :=
  ((m.day : Rat) - epochDay) * daySeconds + ((m.time : Rat) - m.distance.getD 0) / micro

/-- The double tells the instant: it is off by no more than one part in 2^53 of the instant and of a
second, and it is exact for a whole number of seconds. -/
def Tells (x : Double) (instant : Rat) : Prop :=
  ∃ q, x.toRat? = some q ∧ |q - instant| ≤ (|instant| + 1) / 2 ^ 53
    ∧ ∀ n : Int, instant = n → q = n

variable {m : Moment}

theorem abs_instant_lt (bounded : m.Bounded) : |m.instant| < 2 ^ 39 := by
  have days : (m.day : Rat) < dayBound := by exact_mod_cast bounded.day
  have time : (m.time : Rat) < (daySeconds * micro : Nat) := by exact_mod_cast bounded.time
  have distance : |((m.distance.getD 0 : Int) : Rat)| < (daySeconds * micro : Nat) := by
    cases here : m.distance with
    | none => simp [daySeconds, micro]
    | some d => exact_mod_cast bounded.distance d here
  obtain ⟨low, high⟩ := abs_lt.mp distance
  have dayNonneg : (0 : Rat) ≤ m.day := Nat.cast_nonneg _
  have timeNonneg : (0 : Rat) ≤ m.time := Nat.cast_nonneg _
  rw [Moment.instant, epochDay_eq, dayBound, daySeconds, micro] at *
  push_cast at *
  rw [abs_lt]
  constructor <;> linarith

theorem least_place_le : (2 : Rat) ^ (-1075 : Int) ≤ 1 / 2 ^ 100 := by
  rw [one_div, ← zpow_natCast, ← zpow_neg]
  exact zpow_le_zpow_right₀ one_le_two (by decide)

/-- A fraction off by no more than what rounding costs below one second still tells the instant when
it is rounded, for no instant has a part of a second closer to one than a microsecond. -/
theorem tells_ofRatio {total : Int} {den : Nat} {instant : Rat} (denominator : den ≠ 0)
    (bounded : |instant| < 2 ^ 39)
    (near : |(total : Rat) / den - instant| ≤ (1 - 1 / 10 ^ 6) / 2 ^ 53 + 2 ^ (-1075 : Int))
    (exact : ∀ n : Int, instant = n → (total : Rat) / den = n) :
    Tells (Double.ofRatio (total < 0) total.natAbs den) instant := by
  have tiny := least_place_le
  have size : |(total : Rat) / den| ≤ |instant| + |(total : Rat) / den - instant| := by
    have := abs_add_le instant ((total : Rat) / den - instant)
    rwa [add_sub_cancel] at this
  have small : |(total : Rat) / den| < 2 ^ (1023 : Int) := by
    calc |(total : Rat) / den| < 2 ^ 40 := by
          generalize (2 : Rat) ^ (-1075 : Int) = least at *
          linarith
      _ = 2 ^ (40 : Int) := (zpow_natCast 2 40).symm
      _ ≤ 2 ^ (1023 : Int) := zpow_le_zpow_right₀ one_le_two (by decide)
  obtain ⟨q, found, rounded⟩ := Double.rounds_ofRatio total denominator small
  refine ⟨q, found, ?_, ?_⟩
  · have sum := abs_add_le (q - (total : Rat) / den) ((total : Rat) / den - instant)
    rw [sub_add_sub_cancel] at sum
    generalize (2 : Rat) ^ (-1075 : Int) = least at *
    linarith
  · intro n whole
    have few : n.natAbs < 2 ^ 53 := by
      rw [whole] at bounded
      have few : |n| < 2 ^ 39 := by exact_mod_cast bounded
      rw [abs_lt] at few
      omega
    have same := Double.toRat?_ofRatio_of_whole denominator (exact n whole) few
    exact Option.some.inj (found.symm.trans same)

/-- A whole number and a double below two, added without rounding. -/
theorem whole_add_mantissa (whole : Int) {mantissa : Nat} {exponent : Int}
    (small : (mantissa : Rat) * 2 ^ exponent < 2) :
    ((whole * (Nat.pow 2 (-exponent).toNat : Nat) + mantissa : Int) : Rat)
      / (Nat.pow 2 (-exponent).toNat : Nat) = whole + mantissa * 2 ^ exponent := by
  rw [Nat.pow_eq]
  obtain ⟨places, rfl⟩ | positive : (∃ places : Nat, exponent = -places) ∨ 0 < exponent := by
    obtain fine | coarse := le_or_gt exponent 0
    · exact .inl (Int.exists_eq_neg_ofNat fine)
    · exact .inr coarse
  · have unit : (2 : Rat) ^ places ≠ 0 := by positivity
    rw [Int.neg_neg, Int.toNat_natCast, zpow_neg, zpow_natCast]
    push_cast
    field_simp
  · -- A mantissa of a greater exponent is nothing.
    have none : mantissa = 0 := by
      by_contra some
      have least : (1 : Rat) ≤ mantissa := by exact_mod_cast Nat.pos_of_ne_zero some
      have two : (2 : Rat) ≤ 2 ^ exponent := by
        calc (2 : Rat) = 2 ^ (1 : Int) := (zpow_one 2).symm
          _ ≤ 2 ^ exponent := zpow_le_zpow_right₀ one_le_two positive
      have more := mul_le_mul least two zero_le_two (Nat.cast_nonneg mantissa)
      linarith
    rw [none, Int.toNat_eq_zero.mpr (by omega)]
    simp

/-- No part of a second makes a whole number of seconds. -/
theorem part_eq_zero {whole n : Int} {micros : Nat} (below : micros < micro)
    (same : (whole : Rat) + micros / micro = n) : micros = 0 := by
  have scaled : whole * micro + micros = micro * n := by
    have unit : (micro : Rat) ≠ 0 := by norm_num [micro]
    field_simp at same
    exact_mod_cast same
  rw [micro] at below scaled
  omega

/-- Whole seconds and the double nearest to the rest of them add up to a double that tells the
instant. -/
theorem exists_tells_sum {whole : Int} {micros : Nat} {instant : Rat} (below : micros < micro)
    (bounded : |instant| < 2 ^ 39) (parts : instant = whole + micros / micro) :
    ∃ negative mantissa exponent,
      Double.ofRatio false micros micro = .finite negative mantissa exponent
        ∧ Tells (Double.ofRatio
            (whole * (Nat.pow 2 (-exponent).toNat : Nat) + (mantissa : Nat) < 0)
            (whole * (Nat.pow 2 (-exponent).toNat : Nat) + (mantissa : Nat)).natAbs
            (Nat.pow 2 (-exponent).toNat)) instant := by
  have tiny := least_place_le
  have part : (micros : Rat) / micro ≤ 1 - 1 / 10 ^ 6 := by
    have most : (micros : Rat) ≤ 999999 := by exact_mod_cast Nat.le_of_lt_succ below
    calc (micros : Rat) / micro ≤ 999999 / micro := by gcongr
      _ = 1 - 1 / 10 ^ 6 := by norm_num [micro]
  have finite : (micros : Rat) / micro < 2 ^ (1023 : Int) := by
    calc (micros : Rat) / micro < 1 := by linarith
      _ ≤ 2 ^ (1023 : Int) := one_le_zpow₀ one_le_two (by decide)
  obtain ⟨negative, mantissa, exponent, fraction, near, exact⟩ :=
    Double.exists_ofRatio_eq (by decide : micro ≠ 0) finite
  have close : |(mantissa : Rat) * 2 ^ exponent - micros / micro|
      ≤ (1 - 1 / 10 ^ 6) / 2 ^ 53 + 2 ^ (-1075 : Int) := by linarith
  have small : (mantissa : Rat) * 2 ^ exponent < 2 := by
    have high := (abs_le.mp close).2
    generalize (2 : Rat) ^ (-1075 : Int) = least at *
    linarith
  have sum := whole_add_mantissa whole small
  refine ⟨negative, mantissa, exponent, fraction,
    tells_ofRatio (Nat.two_pow_pos _).ne' bounded ?_ ?_⟩
  · rw [sum, parts, add_sub_add_left_eq_sub]
    exact close
  · intro n same
    have none := part_eq_zero below (parts.symm.trans same)
    rw [sum, exact none, ← same, parts, none]
    simp

/-- A moment tells its instant, but for the first day if its distance from Greenwich is not
given. -/
theorem seconds?_cases (bounded : m.Bounded) :
    (m.seconds? = none ∧ m.distance = none ∧ m.day = 1)
      ∨ ((m.distance = none → m.day ≠ 1) ∧ ∃ x, m.seconds? = some x ∧ Tells x m.instant) := by
  have within := abs_instant_lt bounded
  cases here : m.distance with
  | some distance =>
    have value : ((((m.day : Int) - epochDay) * daySeconds * micro + m.time - distance : Int) : Rat)
        / (micro : Nat) = m.instant := by
      rw [Moment.instant, here, Option.getD_some, micro]
      push_cast
      ring
    have least : (0 : Rat) < 2 ^ (-1075 : Int) := by positivity
    rw [Moment.seconds?, here]
    refine .inr ⟨nofun, _, rfl, tells_ofRatio (by decide) within ?_ ?_⟩
    · rw [value, sub_self, abs_zero]
      linarith
    · intro n whole
      rw [value, whole]
  | none =>
    by_cases first : m.day = 1
    · rw [Moment.seconds?, here]
      exact .inl ⟨if_pos first, rfl, first⟩
    · have time : (m.time : Rat) = micro * (m.time / micro : Nat) + (m.time % micro : Nat) := by
        exact_mod_cast (Nat.div_add_mod m.time micro).symm
      have parts : m.instant
          = (((m.day : Int) - epochDay) * daySeconds + (m.time / micro : Nat) : Int)
            + ((m.time % micro : Nat) : Rat) / micro := by
        rw [Moment.instant, here, Option.getD_none, time]
        generalize m.time / micro = seconds
        rw [micro]
        push_cast
        ring
      obtain ⟨negative, mantissa, exponent, fraction, told⟩ :=
        exists_tells_sum (Nat.mod_lt m.time (by decide)) within parts
      rw [Moment.seconds?, here]
      dsimp only
      rw [if_neg first, fraction]
      exact .inr ⟨fun _ => first, _, rfl, told⟩

end TradeDate

end TransferProof
