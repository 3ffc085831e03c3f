import Mathlib.Data.List.TakeWhile
import TransferProof.Text

/-!
# Trimmed texts

What is taken off the ends of a text belongs to a class, and a text between such ends that holds
nothing of the class is what is left.
-/

namespace TransferProof.Text

variable {outer : CodePoint → Bool} {before core after : Text}

/-- What is taken off the ends of a text are code points of the class. -/
theorem exists_trim (outer : CodePoint → Bool) (t : Text) :
    ∃ before after, t = before ++ trim outer t ++ after
      ∧ ∀ c ∈ before ++ after, outer c = true := by
  have fromLeft : t.takeWhile outer ++ t.dropWhile outer = t := List.takeWhile_append_dropWhile
  have fromRight : trim outer t ++ ((t.dropWhile outer).reverse.takeWhile outer).reverse =
      t.dropWhile outer := by
    rw [trim, ← List.reverse_append, List.takeWhile_append_dropWhile, List.reverse_reverse]
  refine ⟨t.takeWhile outer, ((t.dropWhile outer).reverse.takeWhile outer).reverse, ?_, ?_⟩
  · rw [List.append_assoc, fromRight, fromLeft]
  · intro c member
    rcases List.mem_append.mp member with left | right
    · exact List.mem_takeWhile_imp left
    · exact List.mem_takeWhile_imp (List.mem_reverse.mp right)

theorem dropWhile_append (outside : ∀ c ∈ before, outer c = true)
    (inside : ∀ c ∈ core, outer c = false) (rest : Text) (some : core ≠ []) :
    (before ++ core ++ rest).dropWhile outer = core ++ rest := by
  obtain ⟨c, others, rfl⟩ := List.exists_cons_of_ne_nil some
  have first : ¬ outer c = true := by
    rw [inside c List.mem_cons_self]
    exact Bool.false_ne_true
  rw [List.append_assoc, List.dropWhile_append_of_pos outside, List.cons_append,
    List.dropWhile_cons_of_neg first]

/-- A text that holds nothing of the class is all that is left of it between such ends. -/
theorem trim_append (outside : ∀ c ∈ before ++ after, outer c = true)
    (inside : ∀ c ∈ core, outer c = false) (some : core ≠ []) :
    trim outer (before ++ core ++ after) = core := by
  have left := fun c member => outside c (List.mem_append_left after member)
  have right : ∀ c ∈ after.reverse, outer c = true :=
    fun c member => outside c (List.mem_append_right before (List.mem_reverse.mp member))
  have mirrored : ∀ c ∈ core.reverse, outer c = false :=
    fun c member => inside c (List.mem_reverse.mp member)
  have rest := dropWhile_append right mirrored [] (mt List.reverse_eq_nil_iff.mp some)
  rw [List.append_nil, List.append_nil] at rest
  rw [trim, dropWhile_append left inside after some, List.reverse_append, rest,
    List.reverse_reverse]

theorem trim_eq_self (inside : ∀ c ∈ core, outer c = false) : trim outer core = core := by
  obtain rfl | some := eq_or_ne core []
  · rfl
  · have whole : trim outer ([] ++ core ++ []) = core := trim_append nofun inside some
    rwa [List.nil_append, List.append_nil] at whole

/-- A text that begins outside the class loses code points at its end only. -/
theorem exists_trim_append (inside : ∀ c ∈ core, outer c = false) (some : core ≠ []) (tail : Text) :
    ∃ kept lost, tail = kept ++ lost ∧ (∀ c ∈ lost, outer c = true)
      ∧ trim outer (core ++ tail) = core ++ kept := by
  have never {c : CodePoint} (member : c ∈ core) : ¬ outer c = true := by
    rw [inside c member]
    exact Bool.false_ne_true
  obtain ⟨before, after, parts, lost⟩ := exists_trim outer (core ++ tail)
  generalize trim outer (core ++ tail) = trimmed at *
  obtain rfl : before = [] := by
    obtain ⟨c, others, rfl⟩ := List.exists_cons_of_ne_nil some
    cases before with
    | nil => rfl
    | cons d more =>
      obtain ⟨rfl, -⟩ := List.cons.inj parts
      exact absurd (lost c List.mem_cons_self) (never List.mem_cons_self)
  rw [List.nil_append] at parts lost
  obtain ⟨kept, rfl, rfl⟩ | ⟨more, rfl, rfl⟩ := List.append_eq_append_iff.mp parts
  · exact ⟨kept, after, rfl, lost, rfl⟩
  · obtain rfl : more = [] := by
      refine List.eq_nil_iff_forall_not_mem.mpr fun c member => ?_
      exact never (List.mem_append_right _ member) (lost c (List.mem_append_left tail member))
    rw [List.append_nil]
    exact ⟨[], tail, rfl, lost, (List.append_nil trimmed).symm⟩

end TransferProof.Text
