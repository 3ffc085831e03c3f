import TransferProof.Outcome
import TransferProof.Proofs.Text.Digits
import TransferProof.Proofs.Text.Splitting

/-!
# Outcomes as they are written

The text of an outcome leaves some of it out: a count of confirmations stands in it only with the
kind that is about them, and an empty message does not stand in it at all. Where nothing of that is
left out, outcomes of one text are one outcome. Names of tags and kinds end before the first mark
that is no part of a name, so the pieces of the text are told apart from the left.
-/

namespace TransferProof

/-- The capital letters and the low line, of which the names of tags and kinds are made. -/
def Text.isNameLetter (c : CodePoint) : Bool := (0x41 ≤ c && c ≤ 0x5A) || c == 0x5F

namespace Tag

variable {tag other : Tag}

theorem isNameLetter_of_mem_name (listed : tag ∈ known) :
    ∀ c ∈ tag.name, Text.isNameLetter c = true := by
  have every : ∀ tag ∈ known, ∀ c ∈ tag.name, Text.isNameLetter c = true := by decide
  exact every tag listed

theorem ofName?_name (listed : tag ∈ known) : ofName? tag.name = some tag := by
  have every : ∀ tag ∈ known, ofName? tag.name = some tag := by decide
  exact every tag listed

theorem eq_of_name_eq (listed : tag ∈ known) (also : other ∈ known) (same : tag.name = other.name) :
    tag = other := by
  have read := ofName?_name listed
  rw [same, ofName?_name also] at read
  exact (Option.some.inj read).symm

end Tag

namespace DetailKind

theorem isNameLetter_of_mem_name (kind : DetailKind) :
    ∀ c ∈ kind.name, Text.isNameLetter c = true := by
  cases kind <;> decide

theorem ofName?_name (kind : DetailKind) : ofName? kind.name = some kind := by
  cases kind <;> decide

theorem name_injective : Function.Injective name := by
  intro kind other same
  have read := ofName?_name kind
  rw [same, ofName?_name other] at read
  exact (Option.some.inj read).symm

end DetailKind

namespace Detail

def remark (detail : Detail) : Text :=
  match detail.kind, detail.message with
  | .pendingConfirmations, _ => "(" ++ Text.ofInt detail.confirmations ++ ")"
  | _, some (c :: rest) => ": " ++ (c :: rest)
  | _, _ => []

theorem text_eq (detail : Detail) : detail.text = detail.kind.name ++ detail.remark := by
  unfold text
  split <;> simp [remark, *]

/-- No remark goes on as a name does. -/
theorem isNameLetter_of_head?_remark (detail : Detail) :
    ∀ c ∈ detail.remark.head?, Text.isNameLetter c = false := by
  intro c first
  unfold remark at first
  split at first
  · obtain rfl : 0x28 = c := Option.some.inj first
    rfl
  · obtain rfl : 0x3A = c := Option.some.inj first
    rfl
  · cases first

/-- Everything about the detail is written. -/
inductive Explicit : Detail → Prop where
  | counted (count : Int) : Explicit (.ofConfirmations count)
  | bare {kind : DetailKind} (other : kind ≠ .pendingConfirmations) : Explicit (.ofKind kind)
  | worded {kind : DetailKind} {message : Text} (other : kind ≠ .pendingConfirmations)
      (words : message ≠ []) : Explicit { kind := kind, message := some message }

section Remarks

variable {kind : DetailKind} (other : kind ≠ .pendingConfirmations)

include other

theorem remark_ofKind : (Detail.ofKind kind).remark = [] := by
  cases kind
  case pendingConfirmations => exact absurd rfl other
  all_goals rfl

theorem remark_of_message {message : Text} (words : message ≠ []) :
    Detail.remark { kind := kind, message := some message } = ": " ++ message := by
  obtain ⟨c, rest, rfl⟩ := List.exists_cons_of_ne_nil words
  cases kind
  case pendingConfirmations => exact absurd rfl other
  all_goals rfl

end Remarks

theorem Explicit.eq_of_text_eq {detail another : Detail} (one : detail.Explicit)
    (two : another.Explicit) (same : detail.text = another.text) : detail = another := by
  rw [text_eq, text_eq] at same
  obtain ⟨names, remarks⟩ := Text.append_inj_of_stop detail.kind.isNameLetter_of_mem_name
    another.kind.isNameLetter_of_mem_name detail.isNameLetter_of_head?_remark
    another.isNameLetter_of_head?_remark same
  have kinds := DetailKind.name_injective names
  cases one with
  | counted count =>
    cases two with
    | counted number =>
      have counts := List.append_cancel_left (List.append_cancel_right remarks)
      exact congrArg ofConfirmations (Text.ofInt_injective counts)
    | bare other => exact absurd kinds.symm other
    | worded other words => exact absurd kinds.symm other
  | bare other =>
    cases two with
    | counted number => exact absurd kinds other
    | bare => exact congrArg Detail.ofKind kinds
    | worded apart words =>
      rw [remark_ofKind other, remark_of_message apart words] at remarks
      cases remarks
  | @worded kind message other words =>
    cases two with
    | counted number => exact absurd kinds other
    | bare apart =>
      rw [remark_ofKind apart, remark_of_message other words] at remarks
      cases remarks
    | @worded genus wording apart uttered =>
      rw [remark_of_message other words, remark_of_message apart uttered] at remarks
      obtain rfl : kind = genus := kinds
      obtain rfl : message = wording := List.append_cancel_left remarks
      rfl

end Detail

namespace Outcome

def addition (outcome : Outcome) : Text :=
  match outcome.detail with
  | none => []
  | some detail => "/" ++ detail.text

theorem text_eq (outcome : Outcome) : outcome.text = outcome.tag.name ++ outcome.addition := by
  unfold text
  split <;> simp [addition, *]

theorem isNameLetter_of_head?_addition (outcome : Outcome) :
    ∀ c ∈ outcome.addition.head?, Text.isNameLetter c = false := by
  intro c first
  unfold addition at first
  split at first
  · cases first
  · obtain rfl : 0x2F = c := Option.some.inj first
    rfl

/-- Everything about the outcome is written. -/
structure Explicit (outcome : Outcome) : Prop where
  listed : outcome.tag ∈ Tag.known
  written : ∀ detail ∈ outcome.detail, detail.Explicit

/-- Outcomes of which everything is written are told apart by their texts. -/
theorem Explicit.eq_of_text_eq {outcome another : Outcome} (one : outcome.Explicit)
    (two : another.Explicit) (same : outcome.text = another.text) : outcome = another := by
  rw [text_eq, text_eq] at same
  obtain ⟨names, additions⟩ := Text.append_inj_of_stop (Tag.isNameLetter_of_mem_name one.listed)
    (Tag.isNameLetter_of_mem_name two.listed) outcome.isNameLetter_of_head?_addition
    another.isNameLetter_of_head?_addition same
  obtain ⟨tag, detail⟩ := outcome
  obtain ⟨label, particular⟩ := another
  obtain rfl : tag = label := Tag.eq_of_name_eq one.listed two.listed names
  cases detail with
  | none =>
    cases particular with
    | none => rfl
    | some d => cases additions
  | some d =>
    cases particular with
    | none => cases additions
    | some e =>
      have texts : d.text = e.text := List.append_cancel_left additions
      rw [(one.written d rfl).eq_of_text_eq (two.written e rfl) texts]

/-- An empty message is not written, so it is not told from none. -/
example : (error .apiFailure (some [])).text = (error .apiFailure none).text := rfl

theorem explicit_success : Explicit success :=
  ⟨by decide, nofun⟩

theorem explicit_of_detail {tag : Tag} {detail : Detail} (listed : tag ∈ Tag.known)
    (written : detail.Explicit) : Explicit { tag := tag, detail := some detail } := by
  refine ⟨listed, fun other same => ?_⟩
  obtain rfl := Option.some.inj same
  exact written

end Outcome

end TransferProof
