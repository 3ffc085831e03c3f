import TransferProof.Number.Numeral
import TransferProof.Proofs.Text.Digits
import TransferProof.Text.Lower

/-!
# Lower case in ASCII

In a text of ASCII code points each is lowered by itself, so lowering only changes capital letters.
-/

namespace TransferProof.Text

theorem lowerAfter_of_ascii (before : Text) {t : Text} (ascii : ∀ c ∈ t, c < 0x80) :
    lowerAfter before t = Numeral.foldCase t := by
  induction t generalizing before with
  | nil => rfl
  | cons c t ih =>
    have here : c < 0x80 := ascii c List.mem_cons_self
    have rest := ih (c :: before) fun d member => ascii d (List.mem_cons_of_mem c member)
    have noSigma : ¬ c = 0x3A3 := Nat.ne_of_lt (Nat.lt_trans here (by decide))
    rw [lowerAfter, if_neg noSigma, lowerOne, if_pos here, rest]
    by_cases capital : 0x41 ≤ c ∧ c ≤ 0x5A
    · simp [Numeral.foldCase, capital]
    · simp [Numeral.foldCase, capital]

theorem lower_of_ascii {t : Text} (ascii : ∀ c ∈ t, c < 0x80) : lower t = Numeral.foldCase t :=
  lowerAfter_of_ascii [] ascii

/-- The digits of bytes are in lower case. -/
theorem lower_ofBytes (bytes : List UInt8) : lower (ofBytes bytes) = ofBytes bytes := by
  have small : ∀ c ∈ ofString "0123456789abcdef", c < 0x80 ∧ ¬ (0x41 ≤ c ∧ c ≤ 0x5A) := by decide
  have digits := fun c (member : c ∈ ofBytes bytes) => small c (mem_of_mem_ofBytes member)
  rw [lower_of_ascii fun c member => (digits c member).1, Numeral.foldCase]
  calc (ofBytes bytes).map (fun c => if 0x41 ≤ c ∧ c ≤ 0x5A then c + 0x20 else c)
      = (ofBytes bytes).map id := List.map_congr_left fun c member => if_neg (digits c member).2
    _ = ofBytes bytes := List.map_id _

end TransferProof.Text
