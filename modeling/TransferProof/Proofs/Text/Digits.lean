import Mathlib.Data.List.Basic
import Mathlib.Data.List.Induction
import Mathlib.Data.Nat.Digits.Defs
import TransferProof.Text

/-!
# Digits of numbers

A number is written in ASCII digits without a zero at the front, but for the number zero. Such texts
and numbers determine each other. Bytes are written in hexadecimal digits.
-/

namespace TransferProof.Text

variable {n d : Nat} {t : Text} {c : CodePoint}

/-- Every number is a digit, or has one more than another number has. -/
theorem induction_on_digits {motive : Nat → Prop} (digit : ∀ d < 10, motive d)
    (more : ∀ n d, 0 < n → d < 10 → motive n → motive (10 * n + d)) (n : Nat) : motive n := by
  induction n using Nat.strongRecOn with
  | ind n ih =>
    by_cases small : n < 10
    · exact digit n small
    · have parts : 10 * (n / 10) + n % 10 = n := Nat.div_add_mod n 10
      rw [← parts]
      exact more (n / 10) (n % 10) (by omega) (Nat.mod_lt n (by decide)) (ih (n / 10) (by omega))

theorem ofNat_of_lt (small : d < 10) : ofNat d = [0x30 + d] := by
  have every : ∀ d < 10, ofNat d = [0x30 + d] := by decide
  exact every d small

theorem ofNat_append (positive : 0 < n) (small : d < 10) :
    ofNat (10 * n + d) = ofNat n ++ [0x30 + d] := by
  rw [← ofNat_of_lt small, ofNat, ofNat, ofNat, ← List.map_append,
    Nat.toDigits_append_toDigits (by decide) positive small]

theorem toNat_concat (t : Text) (c : CodePoint) : toNat (t ++ [c]) = 10 * toNat t + (c - 0x30) := by
  rw [toNat, List.foldl_append]
  rfl

theorem isAsciiDigit_iff : isAsciiDigit c = true ↔ ∃ d < 10, c = 0x30 + d := by
  rw [isAsciiDigit, Bool.and_eq_true, decide_eq_true_eq, decide_eq_true_eq]
  constructor
  · rintro ⟨low, high⟩
    exact ⟨c - 0x30, Nat.lt_succ_of_le (Nat.sub_le_sub_right high 0x30),
      (Nat.add_sub_of_le low).symm⟩
  · rintro ⟨d, small, rfl⟩
    exact ⟨Nat.le_add_right 0x30 d, Nat.add_le_add_left (Nat.le_of_lt_succ small) 0x30⟩

theorem isAsciiDigit_of_mem_ofNat (member : c ∈ ofNat n) : isAsciiDigit c = true := by
  induction n using induction_on_digits with
  | digit d small =>
    rw [ofNat_of_lt small, List.mem_singleton] at member
    exact isAsciiDigit_iff.mpr ⟨d, small, member⟩
  | more n d positive small ih =>
    rw [ofNat_append positive small, List.mem_append, List.mem_singleton] at member
    obtain earlier | last := member
    · exact ih earlier
    · exact isAsciiDigit_iff.mpr ⟨d, small, last⟩

theorem toNat_ofNat (n : Nat) : toNat (ofNat n) = n := by
  induction n using induction_on_digits with
  | digit d small =>
    rw [ofNat_of_lt small]
    simp [toNat]
  | more n d positive small ih =>
    rw [ofNat_append positive small, toNat_concat, ih]
    omega

theorem ofNat_injective : Function.Injective ofNat :=
  Function.LeftInverse.injective toNat_ofNat

/-- The minus sign of an integer is no digit, so its text is the text of no other. -/
theorem ofInt_injective : Function.Injective ofInt := by
  have unsigned (n m : Nat) : 0x2D :: ofNat n ≠ ofNat m := by
    intro same
    have front : 0x2D ∈ ofNat m := same ▸ List.mem_cons_self
    exact absurd (isAsciiDigit_of_mem_ofNat front) (by decide)
  intro i j same
  rw [ofInt, ofInt] at same
  split at same
  case isTrue below =>
    split at same
    case isTrue =>
      have size := ofNat_injective (List.cons.inj same).2
      omega
    case isFalse => exact absurd same (unsigned _ _)
  case isFalse above =>
    split at same
    case isTrue => exact absurd same.symm (unsigned _ _)
    case isFalse =>
      have size := ofNat_injective same
      omega

/-- So many digits spell a number below so great a power of ten. -/
theorem toNat_lt_pow (decimal : ∀ c ∈ t, isAsciiDigit c = true) : toNat t < 10 ^ t.length := by
  induction t using List.reverseRecOn with
  | nil => exact Nat.one_pos
  | append_singleton t c ih =>
    obtain ⟨before, last⟩ := List.forall_mem_append.mp decimal
    obtain ⟨d, small, rfl⟩ := isAsciiDigit_iff.mp (last c List.mem_cons_self)
    rw [toNat_concat, Nat.add_sub_cancel_left, List.length_append, List.length_singleton]
    calc 10 * toNat t + d < 10 * (toNat t + 1) := Nat.add_lt_add_left small _
      _ ≤ 10 * 10 ^ t.length := Nat.mul_le_mul_left 10 (ih before)
      _ = 10 ^ (t.length + 1) := Nat.pow_succ'.symm

theorem ofNat_ne_nil (n : Nat) : ofNat n ≠ [] := by
  simp [ofNat, Nat.toDigits_ne_nil]

theorem head?_ofNat_ne (positive : 0 < n) : (ofNat n).head? ≠ some 0x30 := by
  induction n using induction_on_digits with
  | digit d small =>
    rw [ofNat_of_lt small]
    simp
    omega
  | more n d above small ih =>
    rw [ofNat_append above small, List.head?_append_of_ne_nil _ (ofNat_ne_nil n)]
    exact ih above

/-- A text of digits is the one of its number, unless a zero stands at its front. -/
theorem ofNat_toNat (some : t ≠ []) (digits : ∀ c ∈ t, isAsciiDigit c = true)
    (canonical : t = [0x30] ∨ t.head? ≠ Option.some 0x30) : ofNat (toNat t) = t := by
  induction t using List.reverseRecOn with
  | nil => exact absurd rfl some
  | append_singleton t c ih =>
    obtain ⟨before, last⟩ := List.forall_mem_append.mp digits
    obtain ⟨d, small, rfl⟩ := isAsciiDigit_iff.mp (last c List.mem_cons_self)
    rw [toNat_concat, Nat.add_sub_cancel_left]
    by_cases empty : t = []
    · subst empty
      rw [toNat, List.foldl_nil, Nat.mul_zero, Nat.zero_add, List.nil_append]
      exact ofNat_of_lt small
    · have front : t.head? ≠ Option.some 0x30 := by
        rw [List.head?_append_of_ne_nil _ empty] at canonical
        obtain single | front := canonical
        · have := congrArg List.length single
          simp [empty] at this
        · exact front
      have same := ih empty before (.inr front)
      have positive : 0 < toNat t := by
        refine Nat.pos_of_ne_zero fun zero => front ?_
        rw [← same, zero]
        rfl
      rw [ofNat_append positive small, same]

theorem hexDigit_mem {n : Nat} (small : n < 16) : hexDigit n ∈ ofString "0123456789abcdef" := by
  have every : ∀ n < 16, hexDigit n ∈ ofString "0123456789abcdef" := by decide
  exact every n small

/-- Bytes are written in decimal digits and the small letters up to f. -/
theorem mem_of_mem_ofBytes {bytes : List UInt8} {c : CodePoint} (member : c ∈ ofBytes bytes) :
    c ∈ ofString "0123456789abcdef" := by
  obtain ⟨b, _, digit⟩ := List.mem_flatMap.mp member
  have pair : hexPadded 2 b.toNat = [hexDigit (b.toNat / 16 % 16), hexDigit (b.toNat % 16)] := rfl
  rw [pair, List.mem_cons, List.mem_singleton] at digit
  rcases digit with rfl | rfl
  · exact hexDigit_mem (Nat.mod_lt _ (by decide))
  · exact hexDigit_mem (Nat.mod_lt _ (by decide))

end TransferProof.Text
