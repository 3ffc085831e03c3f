/-!
# Rounding a quotient

Division to the nearest whole number, where an exact half goes to the even neighbour. Binary doubles
and decimal products are both rounded by it.
-/

namespace TransferProof

/-- The whole number nearest to `num / den`; a half goes to the even neighbour. -/
def roundDiv (num den : Nat) : Nat :=
  let q := num / den
  let twice := 2 * (num % den)
  if twice < den then q
  else if twice = den then q + q % 2
  else q + 1

/-- The error is at most half a unit. -/
theorem roundDiv_near (num den : Nat) (h : 0 < den) :
    2 * (roundDiv num den * den) ≤ 2 * num + den
      ∧ 2 * num ≤ 2 * (roundDiv num den * den) + den := by
  have hdiv := Nat.div_add_mod num den
  have hlt := Nat.mod_lt num h
  have hcomm : num / den * den = den * (num / den) := Nat.mul_comm _ _
  have hsucc : (num / den + 1) * den = den * (num / den) + den := by
    rw [Nat.succ_mul, hcomm]
  unfold roundDiv
  dsimp only
  split
  · omega
  · split
    · rcases Nat.mod_two_eq_zero_or_one (num / den) with hq | hq
      · rw [hq, Nat.add_zero]
        omega
      · rw [hq, hsucc]
        omega
    · rw [hsucc]
      omega

/-- An exact half goes to an even number. -/
theorem roundDiv_tie (num den : Nat) (h : 2 * (num % den) = den) :
    roundDiv num den % 2 = 0 := by
  unfold roundDiv
  dsimp only
  rw [if_neg (by omega), if_pos h]
  omega

/-- A multiple of the divisor is not changed by rounding. -/
theorem roundDiv_mul (q den : Nat) (h : 0 < den) : roundDiv (q * den) den = q := by
  unfold roundDiv
  dsimp only
  rw [Nat.mul_mod_left, Nat.mul_div_cancel _ h, if_pos (by omega)]

end TransferProof
