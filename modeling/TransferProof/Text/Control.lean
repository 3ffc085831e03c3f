import TransferProof.Text

/-!
# Control sequences

A control sequence tells a terminal how to show what follows it: an escape and an opening bracket,
parameters of digits, semicolons and question marks, and a letter. Whatever does not go to a
terminal is written without control sequences. An escape that begins none is an ordinary code point.
-/

namespace TransferProof.Text

def isAsciiLetter (c : CodePoint) : Bool := (0x41 ≤ c && c ≤ 0x5A) || (0x61 ≤ c && c ≤ 0x7A)

/-- What may stand between the opening of a control sequence and its letter. -/
def isControlParameter (c : CodePoint) : Bool := isAsciiDigit c || c == 0x3B || c == 0x3F

/-- What follows the control sequence that a text begins with. -/
def afterControl? : Text → Option Text
  | 0x1B :: 0x5B :: rest =>
    match rest.dropWhile isControlParameter with
    | [] => none
    | c :: after => if isAsciiLetter c then some after else none
  | _ => none

theorem length_afterControl? {t after : Text} (h : afterControl? t = some after) :
    after.length < t.length := by
  unfold afterControl? at h
  split at h
  · rename_i rest
    have hle := (List.dropWhile_sublist isControlParameter (l := rest)).length_le
    split at h
    · cases h
    · rename_i c tail hdrop
      rw [hdrop] at hle
      simp only [List.length_cons] at hle ⊢
      split at h
      · cases h
        omega
      · cases h
  · cases h

/-- A text without its control sequences. They are found in one pass from the front: what comes to
stand together when one is left out is not looked at again. -/
def withoutControls : Text → Text
  | [] => []
  | c :: rest =>
    match _h : afterControl? (c :: rest) with
    | some after => withoutControls after
    | none => c :: withoutControls rest
termination_by t => t.length
decreasing_by
  · exact length_afterControl? ‹_›
  · simp

theorem afterControl?_of_not_mem {t : Text} (h : 0x1B ∉ t) : afterControl? t = none := by
  unfold afterControl?
  split
  · simp at h
  · rfl

/-- A text with no escape is left as it is. -/
theorem withoutControls_of_not_mem {t : Text} (h : 0x1B ∉ t) : withoutControls t = t := by
  induction t with
  | nil => rw [withoutControls]
  | cons c rest ih =>
    have hrest : 0x1B ∉ rest := fun hmem => h (List.mem_cons_of_mem c hmem)
    rw [withoutControls]
    split
    · rename_i after hafter
      rw [afterControl?_of_not_mem h] at hafter
      cases hafter
    · rw [ih hrest]

example : withoutControls "\x1b[1;31mred\x1b[0m" = "red" := by decide +kernel

example : withoutControls "\x1b[1\x1b[1mm\x1b[>0c" = "\x1b[1m\x1b[>0c" := by decide +kernel

end TransferProof.Text
