import TransferProof.Text

/-!
# Cutting texts

What a text is cut into at a code point holds none of it, and is put together again by it. A run of
a class ends where something else follows.
-/

namespace TransferProof.Text

variable {sep : CodePoint} {t : Text}

theorem pieces_of_not_mem (absent : sep ∉ t) : pieces sep t = [t] := by
  induction t with
  | nil => rfl
  | cons c t ih =>
    have other : c ≠ sep := fun same => absent (same ▸ List.mem_cons_self)
    have rest := ih fun member => absent (List.mem_cons_of_mem c member)
    simp [pieces, other, rest]

theorem pieces_append (sep : CodePoint) (t rest : Text) :
    pieces sep (t ++ sep :: rest) = pieces sep t ++ pieces sep rest := by
  induction t with
  | nil => simp [pieces]
  | cons c t ih =>
    by_cases same : c = sep
    · simp [pieces, same, ih]
    · obtain ⟨piece, others, cut⟩ := List.exists_cons_of_ne_nil (pieces_ne_nil sep t)
      simp [pieces, same, ih, cut]

theorem length_pieces (sep : CodePoint) (t : Text) :
    (pieces sep t).length = t.count sep + 1 := by
  induction t with
  | nil => rfl
  | cons c t ih =>
    by_cases same : c = sep
    · simp [pieces, same, ih]
    · obtain ⟨piece, others, cut⟩ := List.exists_cons_of_ne_nil (pieces_ne_nil sep t)
      rw [cut] at ih
      simpa [pieces, same, cut, List.count_cons] using ih

theorem ne_of_not_mem (absent : sep ∉ t) : ∀ c ∈ t, (c != sep) = true := by
  intro c member
  simp only [bne_iff_ne]
  rintro rfl
  exact absent member

theorem splitFirst_append (absent : sep ∉ t) (rest : Text) :
    splitFirst sep (t ++ sep :: rest) = (t, some rest) := by
  have passed := ne_of_not_mem absent
  rw [splitFirst, List.dropWhile_append_of_pos passed, List.takeWhile_append_of_pos passed]
  simp

theorem splitFirst_of_not_mem (absent : sep ∉ t) : splitFirst sep t = (t, none) := by
  have passed : (t ++ []).dropWhile (· != sep) = [] :=
    List.dropWhile_append_of_pos (ne_of_not_mem absent)
  rw [List.append_nil] at passed
  rw [splitFirst, passed]

/-- Nothing is lost by cutting. -/
theorem joined_pieces (sep : CodePoint) (t : Text) : joined [sep] (pieces sep t) = t := by
  induction t with
  | nil => rfl
  | cons c t ih =>
    obtain ⟨piece, others, cut⟩ := List.exists_cons_of_ne_nil (pieces_ne_nil sep t)
    rw [cut] at ih
    by_cases same : c = sep
    · simpa [pieces, same, cut, joined] using ih
    · cases others with
      | nil => simpa [pieces, same, cut, joined] using ih
      | cons next others => simpa [pieces, same, cut, joined] using ih

section Runs

variable {run rest : Text} {p : CodePoint → Bool}

theorem takeWhile_append_of_stop (inside : ∀ c ∈ run, p c = true)
    (stop : ∀ c ∈ rest.head?, p c = false) : (run ++ rest).takeWhile p = run := by
  rw [List.takeWhile_append_of_pos inside]
  cases rest with
  | nil => simp
  | cons c others => simp [stop c rfl]

theorem dropWhile_append_of_stop (inside : ∀ c ∈ run, p c = true)
    (stop : ∀ c ∈ rest.head?, p c = false) : (run ++ rest).dropWhile p = rest := by
  rw [List.dropWhile_append_of_pos inside]
  cases rest with
  | nil => rfl
  | cons c others => simp [stop c rfl]

/-- Two runs of a class, each with something else after it, are told apart in the whole. -/
theorem append_inj_of_stop {other further : Text} (inside : ∀ c ∈ run, p c = true)
    (among : ∀ c ∈ other, p c = true) (stop : ∀ c ∈ rest.head?, p c = false)
    (halt : ∀ c ∈ further.head?, p c = false) (same : run ++ rest = other ++ further) :
    run = other ∧ rest = further := by
  constructor
  · have taken := congrArg (List.takeWhile p) same
    rwa [takeWhile_append_of_stop inside stop, takeWhile_append_of_stop among halt] at taken
  · have dropped := congrArg (List.dropWhile p) same
    rwa [dropWhile_append_of_stop inside stop, dropWhile_append_of_stop among halt] at dropped

end Runs

end TransferProof.Text
