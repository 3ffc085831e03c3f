import TransferProof.Checker
import TransferProof.Proofs.Text.Writable
import TransferProof.Proofs.Verification.Tale

/-!
# What the checker prints

A line is printed in full if it can be written, and else nothing is printed of it and its handler
fails. The heading can be written unless one of the texts that it shows as they were given cannot.
The line for an outcome can always be written if the classifier or the verifier made it, but for a
failed connection: its words name the trade.
-/

namespace TransferProof

open Text

section Outcomes

theorem DetailKind.writable_name (kind : DetailKind) : Writable kind.name := by
  cases kind <;> decide

theorem Detail.writable_text {detail : Detail}
    (message : ∀ words, detail.message = some words → Writable words) : Writable detail.text := by
  have named := detail.kind.writable_name
  rw [text]
  split
  · rw [writable_append, writable_append, writable_append]
    exact ⟨⟨⟨named, by decide⟩, writable_ofInt _⟩, by decide⟩
  · next found _ =>
    rw [writable_append, writable_append]
    exact ⟨⟨named, by decide⟩, message _ found⟩
  · exact named

theorem Outcome.writable_text {outcome : Outcome} (named : Writable outcome.tag.name)
    (message : ∀ detail, outcome.detail = some detail →
      ∀ words, detail.message = some words → Writable words) : Writable outcome.text := by
  rw [text]
  split
  · exact named
  · next detail found =>
    rw [writable_append, writable_append]
    exact ⟨⟨named, by decide⟩, Detail.writable_text (message detail found)⟩

theorem Outcome.writable_error {kind : DetailKind} {message : Text} (writable : Writable message) :
    Writable (Outcome.error kind (some message)).text := by
  refine Outcome.writable_text (show Writable Tag.error.name by decide) ?_
  rintro _ ⟨⟩ _ ⟨⟩
  exact writable

theorem Classifier.Complaint.writable {message : Text} (complaint : Classifier.Complaint message) :
    Writable message := by
  cases complaint with
  | noObject | incomplete => decide
  | missing field =>
    have names : ∀ name ∈ Classifier.requiredFields, Writable name := by decide
    rw [writable_append, writable_append]
    exact ⟨⟨by decide, names _ field⟩, by decide⟩
  | unreadable u =>
    refine Fault.writable_shown_iff.mpr ?_
    have kinds : ∀ kind ∈ [FaultKind.attribute, .type, .value, .overflow], Writable kind.name := by
      decide
    exact kinds u.kind (by cases u <;> simp [Classifier.Unreadable.kind])

theorem Classifier.Listed.writable_text {request : Request} {outcome : Outcome}
    (listed : Classifier.Listed request outcome) : Writable outcome.text := by
  cases listed with
  | success | unseen | failure => decide
  | unconfirmed few =>
    exact Outcome.writable_text (show Writable Tag.pending.name by decide) (by rintro _ ⟨⟩ _ ⟨⟩)
  | failed told =>
    exact Outcome.writable_text (show Writable Tag.failed.name by decide) (by rintro _ ⟨⟩ _ ⟨⟩)
  | invalid complaint => exact Outcome.writable_error complaint.writable

end Outcomes

theorem Verifier.writable_failureText_iff {request : Request} {fault : Fault} :
    Writable (failureText { request } fault) ↔
      Writable request.serviceAddress ∧ Writable request.tradeId ∧ Writable fault.name := by
  have before : Writable "Request at: " := by decide
  have between : Writable " for trade: " := by decide
  have after : Writable " failed with error " := by decide
  simp only [failureText, Verifier.text, writable_append, Fault.writable_shown_iff, before, between,
    after, true_and, and_true, and_assoc]

namespace Checker

variable {around : Surroundings}

section Lines

theorem printLines_snd (lines : List Text) :
    (printLines lines).2 = lines.findSome? Text.surrogates? := by
  induction lines with
  | nil => rfl
  | cons line rest ih =>
    rw [printLines, List.findSome?_cons]
    cases line.surrogates? with
    | none => exact ih
    | some surrogates => rfl

theorem printLines_of_writable {lines : List Text} (writable : ∀ line ∈ lines, Writable line) :
    printLines lines = (lines.flatMap ended, none) := by
  induction lines with
  | nil => rfl
  | cons line rest ih =>
    have here := surrogates?_eq_none_iff.mpr (writable line List.mem_cons_self)
    rw [printLines, here]
    rw [ih fun other member => writable other (List.mem_cons_of_mem _ member), List.flatMap_cons]

theorem printLines_snd_eq_none_iff {lines : List Text} :
    (printLines lines).2 = none ↔ ∀ line ∈ lines, Writable line := by
  simp only [printLines_snd, List.findSome?_eq_none_iff, surrogates?_eq_none_iff]

/-- The line for something that happened, in full. -/
def wholeLine (around : Surroundings) (o : Observation) : Text :=
  (lineOf around o).toList.flatMap ended

theorem habit_eq_none_iff {o : Observation} :
    habit around o = none ↔ ∀ line ∈ (lineOf around o).toList, Writable line := by
  rw [habit, Option.map_eq_none_iff, printLines_snd_eq_none_iff]

theorem printed_eq (around : Surroundings) (o : Observation) :
    printed around o = if habit around o = none then wholeLine around o else [] := by
  rw [printed, habit, wholeLine]
  cases lineOf around o with
  | none => rfl
  | some line =>
    rw [Option.toList_some, printLines]
    cases line.surrogates? <;> simp [printLines]

/-- What is printed are the lines that can be written. -/
theorem flatMap_printed (around : Surroundings) (os : List Observation) :
    os.flatMap (printed around) =
      (os.filter fun o => (habit around o).isNone).flatMap (wholeLine around) := by
  induction os with
  | nil => rfl
  | cons o rest ih =>
    rw [List.flatMap_cons, ih, printed_eq, List.filter_cons]
    cases habit around o <;> simp

end Lines

section Handlers

theorem writable_timeOfDay (now : Double) : Writable (timeOfDay now) := by
  have part (n : Nat) : Writable (zeroPad 2 (ofNat n)) := writable_zeroPad (writable_ofNat n) 2
  simp only [timeOfDay, writable_append]
  exact ⟨⟨⟨⟨part _, by decide⟩, part _⟩, by decide⟩, part _⟩

theorem writable_icon (tag : Tag) : Writable (icon tag) := by
  cases tag with
  | unknown name => exact writable_nil
  | _ => decide

theorem habit_delivered {outcome : Outcome} (writable : Writable outcome.text) (time : Seconds) :
    habit around (.delivered outcome time) = none := by
  refine habit_eq_none_iff.mpr (List.forall_mem_singleton.mpr ?_)
  simp only [outcomeLine, writable_append]
  exact ⟨⟨⟨⟨writable_icon _, by decide⟩, writable_timeOfDay _⟩, by decide⟩, writable⟩

theorem habit_reported_iff {message : Text} {cause : Fault} :
    habit around (.reported message cause) = none ↔ Writable message := by
  have indent : Writable "   note: " := by decide
  rw [habit_eq_none_iff, lineOf, Option.toList_some, List.forall_mem_singleton, noteLine,
    writable_append]
  exact and_iff_right indent

/-- What is told of a request can be printed, unless it tells of a failed poll. -/
theorem habit_delivered_of_traced {request : Request} {outcome : Outcome}
    (traced : Traced request (.result outcome))
    (connected : ∀ fault, outcome = Verifier.failure { request } fault →
      Writable (Verifier.failureText { request } fault)) (time : Seconds) :
    habit around (.delivered outcome time) = none := by
  refine habit_delivered ?_ time
  cases traced with
  | listed listed => exact listed.writable_text
  | overdue => decide
  | failure genuine => exact Outcome.writable_error (connected _ rfl)

end Handlers

/-- The heading shows three texts as they were given. -/
theorem writable_headingLines_iff {request : Request} :
    (∀ line ∈ headingLines request, Writable line) ↔
      Writable request.txHash ∧ Writable request.recipientAddress
        ∧ Writable request.serviceAddress := by
  have labels : ∀ label ∈ [ofString "\n================ XMR Tx Proof =================",
      ofString "🧾 Tx hash:         ", ofString "📮 Address:         ",
      ofString "💰 Amount:          ", ofString " XMR", ofString "🛰  Service:         ",
      ofString "🔢 Confirmations:   ",
      ofString "===============================================\n"], Writable label := by
    decide +kernel
  simp only [List.forall_mem_cons] at labels
  obtain ⟨top, hash, address, amount, unit, service, confirmations, bottom, -⟩ := labels
  have xmr := Amount.writable_toText request.amount
  have count := writable_ofInt request.requiredConfirmations
  rw [headingLines]
  simp only [List.forall_mem_cons, writable_append, top, hash, address, amount, unit, service,
    confirmations, bottom, xmr, count, true_and, and_true]
  simp

end Checker

end TransferProof
