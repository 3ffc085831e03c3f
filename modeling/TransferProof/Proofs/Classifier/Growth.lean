import TransferProof.Proofs.Classifier.Comparison

/-!
# More confirmations

How often a transfer is confirmed is looked at last, after everything else about it was found to be
right. So the number decides between pending and success only, and a verdict moves forward while it
grows: what is pending stays so or becomes a success, and every other verdict is for good.
-/

namespace TransferProof.Classifier

open Json

/-- How a verdict may change while the confirmations grow from `n` to `m`. -/
inductive Advances (required n m : Int) : Except Fault Outcome → Except Fault Outcome → Prop where
  | unchanged (result : Except Fault Outcome) : Advances required n m result result
  | further (few : n < required) (stillFew : m < required) :
      Advances required n m (.ok (.pending (.ofConfirmations n)))
        (.ok (.pending (.ofConfirmations m)))
  | enough (few : n < required) (reached : required ≤ m) :
      Advances required n m (.ok (.pending (.ofConfirmations n))) (.ok .success)

section Count

variable {request : Request} {data otherData : List (Text × Json)} {required n m : Int}

theorem advances_confirmed (grows : n ≤ m) :
    Advances required n m (.ok (confirmed required n)) (.ok (confirmed required m)) := by
  rw [confirmed, confirmed]
  split
  case isTrue few =>
    split
    case isTrue stillFew => exact .further few stillFew
    case isFalse reached => exact .enough few (Int.not_lt.mp reached)
  case isFalse reached =>
    have stillReached : ¬ m < required := by omega
    rw [if_neg stillReached]
    exact .unchanged _

theorem Advances.success {result later : Except Fault Outcome}
    (advances : Advances required n m result later) (success : result = .ok .success) :
    later = .ok .success := by
  cases advances with
  | unchanged => exact success
  | further => simp [Outcome.success, Outcome.pending] at success
  | enough => rfl

theorem confirmed_ne_failed {kind : DetailKind} : confirmed required n ≠ .failed kind := by
  rw [confirmed]
  split <;> simp [Outcome.pending, Outcome.success, Outcome.failed]

/-- The number of confirmations makes no difference to the last checks, or all the difference. -/
theorem judgeOutputs_confirmed :
    (∃ result, ∀ count, judgeOutputs request data count = result)
      ∨ ∀ count, judgeOutputs request data count =
          .ok (confirmed request.requiredConfirmations count) := by
  cases listed : outputs (field data "outputs") with
  | error u =>
    left
    refine ⟨.error u, fun count => ?_⟩
    rw [judgeOutputs, listed]
  | ok items =>
    cases found : matchOutputs request.amount .none items with
    | error u =>
      left
      refine ⟨.error u, fun count => ?_⟩
      rw [judgeOutputs_of_listed listed, found]
      rfl
    | ok seen =>
      have ends (count : Int) :
          judgeOutputs request data count =
            .ok (ruled request.requiredConfirmations count seen) := by
        rw [judgeOutputs_of_listed listed, found]
        rfl
      cases seen with
      | none => exact Or.inl ⟨.ok (.failed .noMatchFound), ends⟩
      | otherAmount => exact Or.inl ⟨.ok (.failed .amountNotMatching), ends⟩
      | expectedAmount => exact Or.inr ends

theorem judgeOutputs_congr (same : field data "outputs" = field otherData "outputs")
    (count : Int) : judgeOutputs request data count = judgeOutputs request otherData count := by
  rw [judgeOutputs, judgeOutputs, same]

/-- Two responses that differ in the number of confirmations only come to the same result, or to
what these numbers say. -/
theorem DifferIn.of_confirmations {response other : List (Text × Json)}
    (differ : DifferIn "tx_confirmations" response other data otherData)
    (count : integer (field data "tx_confirmations") = .ok n)
    (otherCount : integer (field otherData "tx_confirmations") = .ok m) :
    (judge request response).result = (judge request other).result
      ∨ (judge request response).result =
          .ok (confirmed request.requiredConfirmations n)
        ∧ (judge request other).result =
          .ok (confirmed request.requiredConfirmations m) := by
  rcases differ.fork (by decide) with same | ⟨left, right⟩
  · exact Or.inl same
  have outputs := differ.within "outputs" (by decide)
  rw [judgeConfirmations_of_count count] at left
  rw [judgeConfirmations_of_count otherCount, ← judgeOutputs_congr outputs] at right
  rcases judgeOutputs_confirmed with ⟨result, always⟩ | counted
  · rw [always] at left right
    exact Or.inl (left.trans right.symm)
  · rw [counted] at left right
    exact Or.inr ⟨left, right⟩

end Count

/-- Where responses differ in the number of confirmations only, in whatever way it is written, the
verdict stays or moves forward as the number grows. A success stays one, and whether and how a proof
has failed does not depend on the number at all. -/
theorem verdict_advances {request : Request} {body later : Text}
    {response other data otherData : List (Text × Json)} {n m : Int}
    (read : Json.ofText body = .ok (.object response))
    (readLater : Json.ofText later = .ok (.object other))
    (differ : DifferIn "tx_confirmations" response other data otherData)
    (count : integer (field data "tx_confirmations") = .ok n)
    (laterCount : integer (field otherData "tx_confirmations") = .ok m) :
    (n ≤ m → Advances request.requiredConfirmations n m (classify request body).result
        (classify request later).result)
      ∧ (n ≤ m → (classify request body).result = .ok .success →
          (classify request later).result = .ok .success)
      ∧ ∀ kind, (classify request body).result = .ok (.failed kind) ↔
          (classify request later).result = .ok (.failed kind) := by
  rw [classify_of_read read, classify_of_read readLater]
  have advances (grows : n ≤ m) :
      Advances request.requiredConfirmations n m (settle (judge request response).result)
        (settle (judge request other).result) := by
    rcases differ.of_confirmations count laterCount with same | ⟨left, right⟩
    · rw [same]
      exact .unchanged _
    · rw [left, right]
      exact advances_confirmed grows
  refine ⟨advances, ?_, ?_⟩
  · intro grows success
    exact (advances grows).success success
  · intro kind
    rcases differ.of_confirmations count laterCount with same | ⟨left, right⟩
    · rw [same]
    · rw [left, right]
      simp [settle, confirmed_ne_failed]

section Quarter

def countedText (confirmations : Text) : Text :=
  quarterText confirmations (List.flatten ["[", quarterOutputText, "]"])

theorem ofText_countedText_three : Json.ofText (countedText "\" 3 \"") =
    .ok (.object (quarterResponse (.string " 3 ") (.array [.object quarterOutput]))) := by
  decide +kernel

theorem ofText_countedText_ten : Json.ofText (countedText "10") =
    .ok (.object (quarterResponse (.int 10) (.array [.object quarterOutput]))) := by
  decide +kernel

/-- A count of three as a text, and ten as a number. -/
theorem verdict_advances_quarter :
    Advances quarterRequest.requiredConfirmations 3 10
      (classify quarterRequest (countedText "\" 3 \"")).result
      (classify quarterRequest (countedText "10")).result := by
  have count : integer (field (quarterData (.string " 3 ") (.array [.object quarterOutput]))
      "tx_confirmations") = .ok 3 := rfl
  have laterCount : integer (field (quarterData (.int 10) (.array [.object quarterOutput]))
      "tx_confirmations") = .ok 10 := rfl
  exact (verdict_advances ofText_countedText_three ofText_countedText_ten
    (differIn_confirmations _ _ _) count laterCount).1 (by decide)

end Quarter

end TransferProof.Classifier
