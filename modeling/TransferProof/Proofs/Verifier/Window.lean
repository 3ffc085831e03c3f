import TransferProof.Proofs.Number.Midpoint
import TransferProof.Verifier

/-!
# The window for requests

Requests are made within twelve hours of the first one. Between exact times this is meant as it
stands. If one of the two times is in floating point the span between them is rounded before it is
looked at, and that lets a request pass up to `2 ^ -38` seconds later.
-/

namespace TransferProof.Verifier

/-- So much later in floating point than twelve hours that it is seen. -/
def LateBetween (first reading : Double) : Prop :=
  match first.toRat?, reading.toRat? with
  | some a, some b => a + 43200 + 1 / 2 ^ 38 < b
  | some _, none => reading = .infinite false
  | none, some _ => first = .infinite true
  | none, none => first = .infinite true ∧ reading = .infinite false

/-- The reading of a clock is later than twelve hours after the first request. -/
def Late : Seconds → Seconds → Prop
  | .exact first, .exact reading => first + 43200 < reading
  | first, reading => LateBetween first.toDouble reading.toDouble

theorem requestPeriod_lt_floating_iff (x : Double) :
    requestPeriod.lt (.floating x) = true ↔ x.Exceeds 43200 := by
  have period : requestPeriod.toRat? = some 43200 := by decide +kernel
  rw [Seconds.lt, period]
  cases value : (Seconds.floating x).toRat? with
  | some q =>
    have value : x.toRat? = some q := value
    rw [Double.exceeds_iff_of_toRat? value]
    exact decide_eq_true_iff
  | none =>
    have value : x.toRat? = none := value
    simp [Double.Exceeds, value]

/-- Twelve hours are a number of seconds with an even mantissa, so that half a unit above them is
rounded down. -/
theorem exceeds_ofRat_iff (q : Rat) : (Double.ofRat q).Exceeds 43200 ↔ 43200 + 1 / 2 ^ 38 < q := by
  have bound : (43200 : Rat) = (43200 * 2 ^ 37 : Nat) * 2 ^ (-37 : Int) := by norm_num
  have middle : (43200 : Rat) + 1 / 2 ^ 38 =
      ((43200 * 2 ^ 37 : Nat) + 1 / 2) * 2 ^ (-37 : Int) := by norm_num
  rw [middle, bound]
  exact Double.exceeds_ofRat_iff q (by decide) (by decide) (by decide) (by decide) (by decide)

theorem exceeds_sub_iff (first reading : Double) :
    (reading - first).Exceeds 43200 ↔ LateBetween first reading := by
  show (reading.add first.neg).Exceeds 43200 ↔ _
  rw [Double.add, Double.toRat?_neg, LateBetween]
  cases early : first.toRat? with
  | some a =>
    cases late : reading.toRat? with
    | some b =>
      dsimp only [Option.map_some]
      split
      case isTrue same =>
        have same : b + -a = 0 := Rat.zero_of_num_zero same
        refine iff_of_false (Double.not_exceeds_zero _ (by norm_num)) ?_
        norm_num
        linarith
      case isFalse other =>
        rw [exceeds_ofRat_iff]
        constructor <;> intro beyond <;> linarith
    | none => exact Double.exceeds_iff_of_toRat?_none late
  | none =>
    have opposite : first.neg.toRat? = none := by rw [Double.toRat?_neg, early]; rfl
    cases late : reading.toRat? with
    | some b =>
      dsimp only [Option.map_none]
      rw [Double.exceeds_iff_of_toRat?_none opposite, Double.neg_eq_infinite_false_iff]
    | none =>
      dsimp only [Option.map_none]
      split
      case isTrue same =>
        rw [Double.exceeds_iff_of_toRat?_none late, same, Double.neg_eq_infinite_false_iff,
          and_self_iff]
      case isFalse other =>
        refine iff_of_false (Double.not_exceeds_nan _) ?_
        rintro ⟨rfl, rfl⟩
        exact other rfl

theorem isOverdue_iff (v : Verifier) (now : Seconds) :
    v.isOverdue now = true ↔ Late v.request.firstRequest now := by
  have floating (first reading : Double) :
      requestPeriod.lt (.floating (reading - first)) = true ↔ LateBetween first reading :=
    (requestPeriod_lt_floating_iff _).trans (exceeds_sub_iff first reading)
  rw [isOverdue]
  cases first : v.request.firstRequest with
  | floating a => cases now <;> exact floating _ _
  | exact a =>
    cases now with
    | floating b => exact floating _ _
    | exact b =>
      have period : requestPeriod = .exact 43200 := by decide +kernel
      rw [period, Seconds.exact_sub, Seconds.lt_exact, decide_eq_true_iff, Late]
      constructor <;> intro late <;> linarith

end TransferProof.Verifier
