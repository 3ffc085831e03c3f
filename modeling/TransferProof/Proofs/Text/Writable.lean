import Mathlib.Data.List.TakeWhile
import TransferProof.Amount
import TransferProof.Fault
import TransferProof.Proofs.Text.Digits
import TransferProof.Text.Encoding

/-!
# Texts that can be written

A text can be written if it holds no surrogate. Numbers can, and so can all that is quoted: a
surrogate is not printable, and so it is quoted as an escape.
-/

namespace TransferProof

namespace Text

/-- A text that can be written. -/
def Writable (t : Text) : Prop := ∀ c ∈ t, isSurrogate c = false

instance : DecidablePred Writable := fun t =>
  inferInstanceAs (Decidable (∀ c ∈ t, isSurrogate c = false))

theorem surrogates?_eq_none_iff {t : Text} : surrogates? t = none ↔ Writable t := by
  have whole : t.dropWhile (!isSurrogate ·) = [] ↔ Writable t := by
    simp [List.dropWhile_eq_nil_iff, Writable]
  rw [surrogates?, ← whole]
  cases t.dropWhile (!isSurrogate ·) <;> simp

@[simp] theorem writable_nil : Writable [] := fun _ member => absurd member List.not_mem_nil

@[simp] theorem writable_append {a b : Text} : Writable (a ++ b) ↔ Writable a ∧ Writable b :=
  List.forall_mem_append

@[simp] theorem writable_cons {c : CodePoint} {t : Text} :
    Writable (c :: t) ↔ isSurrogate c = false ∧ Writable t :=
  List.forall_mem_cons

theorem Writable.of_subset {a b : Text} (writable : Writable b) (part : a ⊆ b) : Writable a :=
  fun c member => writable c (part member)

theorem isSurrogate_of_lt {c : CodePoint} (small : c < 0xD800) : isSurrogate c = false :=
  Bool.and_eq_false_iff.mpr (.inl (decide_eq_false (Nat.not_le.mpr small)))

section Numbers

theorem writable_ofNat (n : Nat) : Writable (ofNat n) := by
  intro c member
  obtain ⟨d, small, rfl⟩ := isAsciiDigit_iff.mp (isAsciiDigit_of_mem_ofNat member)
  exact isSurrogate_of_lt (Nat.lt_of_lt_of_le (Nat.add_lt_add_left small 0x30) (by decide))

theorem writable_ofInt (i : Int) : Writable (ofInt i) := by
  rw [ofInt]
  split
  · exact writable_cons.mpr ⟨rfl, writable_ofNat _⟩
  · exact writable_ofNat _

theorem writable_zeroPad {t : Text} (writable : Writable t) (width : Nat) :
    Writable (zeroPad width t) := by
  rw [zeroPad, writable_append]
  refine ⟨fun c member => ?_, writable⟩
  rw [(List.mem_replicate.mp member).2]
  rfl

theorem writable_hexPadded (width n : Nat) : Writable (hexPadded width n) := by
  induction width generalizing n with
  | zero => exact writable_nil
  | succ width ih =>
    rw [hexPadded, writable_append]
    refine ⟨ih _, List.forall_mem_singleton.mpr (isSurrogate_of_lt ?_)⟩
    have small : n % 16 < 16 := Nat.mod_lt n (by decide)
    simp only [hexDigit]
    split
    · exact Nat.lt_of_lt_of_le (Nat.add_lt_add_left small 0x30) (by decide)
    · exact Nat.lt_of_lt_of_le (Nat.add_lt_add_left small 0x57) (by decide)

end Numbers

section Quotes

/-- No printable range reaches into the surrogates. -/
theorem isSurrogate_of_isPrintable {c : CodePoint} (printable : isPrintable c = true) :
    isSurrogate c = false := by
  have apart : ∀ range ∈ printableRanges, range.2 < 0xD800 ∨ 0xDFFF < range.1 := by decide +kernel
  rw [isPrintable] at printable
  split at printable
  case isTrue ascii => exact isSurrogate_of_lt (Nat.lt_trans ascii (by decide))
  case isFalse =>
    obtain ⟨range, among, low, high⟩ := Ranges.contains_iff.mp printable
    rcases apart range among with below | above
    · exact isSurrogate_of_lt (Nat.lt_of_le_of_lt high below)
    · exact Bool.and_eq_false_iff.mpr
        (.inr (decide_eq_false (Nat.not_le.mpr (Nat.lt_of_lt_of_le above low))))

theorem writable_escaped {mark : CodePoint} (plain : isSurrogate mark = false) (c : CodePoint) :
    Writable (escaped mark c) := by
  have backslash (letter : String) (h : Writable (ofString letter)) (width : Nat) :
      Writable (ofString letter ++ hexPadded width c) :=
    writable_append.mpr ⟨h, writable_hexPadded width c⟩
  rw [escaped]
  split
  case isTrue same =>
    rcases same with rfl | rfl
    · exact writable_cons.mpr ⟨rfl, writable_cons.mpr ⟨plain, writable_nil⟩⟩
    · decide
  case isFalse =>
    repeat' split
    all_goals first
      | decide
      | exact backslash _ (by decide) _
      | exact List.forall_mem_singleton.mpr (isSurrogate_of_isPrintable ‹_›)

/-- Whatever is quoted can be written. -/
theorem writable_quoted (t : Text) : Writable (quoted t) := by
  have plain : isSurrogate (quoteMark t) = false := by
    rw [quoteMark]
    split <;> rfl
  rw [quoted]
  refine writable_append.mpr ⟨writable_cons.mpr ⟨plain, fun c member => ?_⟩,
    List.forall_mem_singleton.mpr plain⟩
  obtain ⟨d, -, among⟩ := List.mem_flatMap.mp member
  exact writable_escaped plain d c among

end Quotes

end Text

open Text

/-- Only the name of a fault is shown as it is. -/
theorem Fault.writable_shown_iff {fault : Fault} : Writable fault.shown ↔ Writable fault.name := by
  rw [shown, writable_append, writable_append, writable_append]
  constructor
  · exact fun parts => parts.1.1.1
  · intro named
    refine ⟨⟨⟨named, by decide⟩, ?_⟩, by decide⟩
    split
    · exact writable_quoted _
    · exact writable_nil

theorem Decimal.writable_scientificText (coefficient : Nat) (exponent : Int) :
    Writable (scientificText coefficient exponent) := by
  have digits := writable_ofNat coefficient
  rw [scientificText]
  dsimp only
  split
  · have padded := writable_zeroPad digits ((-exponent).toNat + 1)
    split
    · exact padded.of_subset (List.take_subset _ _)
    · exact writable_append.mpr ⟨padded.of_subset (List.take_subset _ _),
        writable_cons.mpr ⟨rfl, padded.of_subset (List.drop_subset _ _)⟩⟩
  · rw [writable_append, writable_append, writable_append]
    refine ⟨⟨⟨digits.of_subset (List.take_subset _ _), ?_⟩, ?_⟩, writable_ofNat _⟩
    · split
      · exact writable_nil
      · exact writable_cons.mpr ⟨rfl, digits.of_subset (List.drop_subset _ _)⟩
    · split <;> decide

theorem Amount.writable_toText (amount : Int) : Writable (toText amount) := by
  rw [toText, writable_append]
  refine ⟨?_, Decimal.writable_scientificText _ _⟩
  split <;> decide

end TransferProof
