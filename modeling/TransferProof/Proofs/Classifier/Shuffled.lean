import TransferProof.Proofs.Classifier.Comparison
import TransferProof.Proofs.Classifier.Table

/-!
# The order of the outputs

The search through the outputs of a response ends at the first one that carries the amount, and at
the first one that cannot be read. The outputs that it passes over may stand in any order. So the
order makes a difference only where outputs of both these kinds are listed, and then the first of
them decides.
-/

namespace TransferProof.Classifier

open Json

def isOurs : Json → Bool
  | .object output =>
    match field output "match" with
    | .bool true => true
    | _ => false
  | _ => false

def Carries (amount : Int) (item : Json) : Prop :=
  ∃ output, item = .object output ∧ field output "match" = .bool true
    ∧ integer (field output "amount") = .ok amount

/-- The search passes over everything that is listed before the item. -/
def Reaches (amount : Int) (items : List Json) (item : Json) : Prop :=
  ∃ before after, items = before ++ item :: after ∧ ∀ other ∈ before, Passes amount other

inductive Ends (amount : Int) (seen : Match) (items : List Json) :
    Except Unreadable Match → Prop where
  | passed (passes : ∀ item ∈ items, Passes amount item) :
      Ends amount seen items (.ok (if items.any isOurs then .otherAmount else seen))
  | carried {item : Json} (reached : Reaches amount items item) (carries : Carries amount item) :
      Ends amount seen items (.ok .expectedAmount)
  | broken {item : Json} {u : Unreadable} (reached : Reaches amount items item)
      (broken : Broken item u) : Ends amount seen items (.error u)

section Search

variable {amount : Int} {seen : Match} {item : Json} {items others : List Json} {u : Unreadable}
  {result other : Except Unreadable Match}

theorem Reaches.mem (reached : Reaches amount items item) : item ∈ items := by
  obtain ⟨before, after, rfl, _⟩ := reached
  exact List.mem_append_right _ List.mem_cons_self

theorem reaches_head : Reaches amount (item :: items) item :=
  ⟨[], items, rfl, by simp⟩

theorem Reaches.cons {next : Json} (reached : Reaches amount items item)
    (passes : Passes amount next) : Reaches amount (next :: items) item := by
  obtain ⟨before, after, rfl, passed⟩ := reached
  refine ⟨next :: before, after, rfl, ?_⟩
  intro x member
  rcases List.mem_cons.mp member with rfl | member
  · exact passes
  · exact passed x member

theorem Passes.not_carries (passes : Passes amount item) : ¬ Carries amount item := by
  rintro ⟨output, rfl, ours, read⟩
  obtain ⟨_, same, others⟩ := passes
  obtain rfl := Json.object.inj same
  obtain ⟨found, counted, different⟩ := others ours
  exact different (Except.ok.inj (counted.symm.trans read))

theorem Passes.not_broken (passes : Passes amount item) : ¬ Broken item u := by
  obtain ⟨output, rfl, others⟩ := passes
  intro broken
  cases broken with
  | noFields broken => cases broken
  | amount ours broken =>
    obtain ⟨found, counted, _⟩ := others ours
    rw [counted] at broken
    cases broken

/-- An output that is passed over leaves its mark, if it is ours, and the search goes on. -/
theorem Ends.cons (passes : Passes amount item)
    (ends : Ends amount (if isOurs item then .otherAmount else seen) items result) :
    Ends amount seen (item :: items) result := by
  cases ends with
  | passed rest =>
    have marks : (if items.any isOurs then Match.otherAmount
        else if isOurs item then .otherAmount else seen) =
          if (item :: items).any isOurs then .otherAmount else seen := by
      rw [List.any_cons]
      cases isOurs item <;> cases items.any isOurs <;> rfl
    rw [marks]
    refine .passed fun x member => ?_
    rcases List.mem_cons.mp member with rfl | member
    · exact passes
    · exact rest x member
  | carried reached carries => exact .carried (reached.cons passes) carries
  | broken reached broken => exact .broken (reached.cons passes) broken

theorem ends_matchOutputs : Ends amount seen items (matchOutputs amount seen items) := by
  induction items generalizing seen with
  | nil => exact .passed (by simp)
  | cons item rest ih =>
    rw [matchOutputs]
    cases item with
    | object output =>
      dsimp only [fields]
      split
      case h_1 ours =>
        have marked : isOurs (.object output) = true := by rw [isOurs, ours]
        split
        case h_1 u broken => exact .broken reaches_head (.amount ours broken)
        case h_2 found read =>
          split
          case isTrue same => exact .carried reaches_head ⟨output, rfl, ours, same ▸ read⟩
          case isFalse different =>
            refine .cons ⟨output, rfl, fun _ => ⟨found, read, different⟩⟩ ?_
            rw [if_pos marked]
            exact ih
      case h_2 others =>
        have unmarked : isOurs (.object output) = false := by
          rw [isOurs]
          split
          case h_1 ours => exact absurd ours others
          case h_2 => rfl
        refine .cons ⟨output, rfl, fun ours => absurd ours others⟩ ?_
        rw [unmarked]
        exact ih
    | _ => exact .broken reaches_head (.noFields rfl)

def Mixed (amount : Int) (items : List Json) : Prop :=
  (∃ item ∈ items, Carries amount item) ∧ ∃ item ∈ items, ∃ u, Broken item u

/-- Of the outputs that carry the amount or cannot be read, the first one of the one list cannot be
read, and the first one of the other carries the amount. -/
structure Contested (amount : Int) (items others : List Json) (u : Unreadable) : Prop where
  broken : ∃ item, Reaches amount items item ∧ Broken item u
  carries : ∃ item, Reaches amount others item ∧ Carries amount item

/-- Two searches through the same outputs in another order come to the same, or both come upon
something that cannot be read, unless the order decides which of two things they come upon. -/
theorem ends_of_perm (shuffled : items.Perm others) (ends : Ends amount seen items result)
    (otherEnds : Ends amount seen others other) :
    result = other
      ∨ (∃ u v, result = .error u ∧ other = .error v ∧ (∃ item ∈ items, Broken item u)
          ∧ ∃ item ∈ items, Broken item v)
      ∨ (∃ u, Contested amount items others u ∧ result = .error u ∧ other = .ok .expectedAmount)
      ∨ ∃ u, Contested amount others items u ∧ other = .error u ∧ result = .ok .expectedAmount := by
  cases ends with
  | passed passes =>
    cases otherEnds with
    | passed _ =>
      left
      rw [shuffled.any_eq]
    | carried reached carries =>
      exact absurd carries (passes _ (shuffled.mem_iff.mpr reached.mem)).not_carries
    | broken reached broken =>
      exact absurd broken (passes _ (shuffled.mem_iff.mpr reached.mem)).not_broken
  | carried reached carries =>
    cases otherEnds with
    | passed passes =>
      exact absurd carries (passes _ (shuffled.mem_iff.mp reached.mem)).not_carries
    | carried _ _ => exact Or.inl rfl
    | broken otherReached broken =>
      exact Or.inr (Or.inr (Or.inr
        ⟨_, ⟨⟨_, otherReached, broken⟩, _, reached, carries⟩, rfl, rfl⟩))
  | broken reached broken =>
    cases otherEnds with
    | passed passes =>
      exact absurd broken (passes _ (shuffled.mem_iff.mp reached.mem)).not_broken
    | carried otherReached carries =>
      exact Or.inr (Or.inr (Or.inl
        ⟨_, ⟨⟨_, reached, broken⟩, _, otherReached, carries⟩, rfl, rfl⟩))
    | broken otherReached otherBroken =>
      exact Or.inr (Or.inl ⟨_, _, rfl, rfl, ⟨_, reached.mem, broken⟩, _,
        shuffled.mem_iff.mpr otherReached.mem, otherBroken⟩)

theorem Contested.mixed (contested : Contested amount items others u)
    (shuffled : items.Perm others) : Mixed amount items := by
  obtain ⟨item, reached, broken⟩ := contested.broken
  obtain ⟨other, otherReached, carries⟩ := contested.carries
  exact ⟨⟨other, shuffled.mem_iff.mpr otherReached.mem, carries⟩, item, reached.mem, u, broken⟩

theorem Mixed.perm (mixed : Mixed amount items) (shuffled : items.Perm others) :
    Mixed amount others := by
  obtain ⟨⟨item, member, carries⟩, other, otherMember, broken⟩ := mixed
  exact ⟨⟨item, shuffled.mem_iff.mp member, carries⟩, other, shuffled.mem_iff.mp otherMember,
    broken⟩

end Search

/-- Two verdicts have the same tag and the same kind of detail, or they are the same fault. -/
inductive SameVerdict : Except Fault Outcome → Except Fault Outcome → Prop where
  | outcome {outcome other : Outcome} (tag : outcome.tag = other.tag)
      (kind : outcome.detail.map Detail.kind = other.detail.map Detail.kind) :
      SameVerdict (.ok outcome) (.ok other)
  | fault (fault : Fault) : SameVerdict (.error fault) (.error fault)

/-- The order of the outputs decides: in the first order the response cannot be read, and in the
second the transfer is in order but for the number of its confirmations. -/
def Divided (request : Request) (items others : List Json) (result other : Except Fault Outcome) :
    Prop :=
  ∃ u count, Contested request.amount items others u
    ∧ result = .ok (.error .apiInvalid (some u.toFault.shown))
    ∧ other = .ok (confirmed request.requiredConfirmations count)

section Verdict

variable {request : Request} {items others : List Json}
  {response other data otherData : List (Text × Json)}

theorem SameVerdict.refl (result : Except Fault Outcome) : SameVerdict result result := by
  cases result with
  | ok outcome => exact .outcome rfl rfl
  | error fault => exact .fault fault

theorem sameVerdict_of_unreadable {u v : Unreadable} (finite : u ≠ .infinite)
    (otherFinite : v ≠ .infinite) : SameVerdict (settle (.error u)) (settle (.error v)) := by
  rw [settle_of_finite finite, settle_of_finite otherFinite]
  exact .outcome rfl rfl

/-- Responses that differ in their outputs only are judged alike, or by their outputs. -/
theorem DifferIn.of_outputs (differ : DifferIn "outputs" response other data otherData) :
    (judge request response).result = (judge request other).result
      ∨ ∃ count, (judge request response).result = judgeOutputs request data count
        ∧ (judge request other).result = judgeOutputs request otherData count := by
  rcases differ.fork (by decide) with same | ⟨left, right⟩
  · exact Or.inl same
  have counts := differ.within "tx_confirmations" (by decide)
  cases read : integer (field data "tx_confirmations") with
  | ok count =>
    have otherRead := counts ▸ read
    right
    exact ⟨count, left.trans (judgeConfirmations_of_count read),
      right.trans (judgeConfirmations_of_count otherRead)⟩
  | error u =>
    left
    rw [left, right, judgeConfirmations, judgeConfirmations, ← counts]
    split
    case h_1 => rfl
    case h_2 => rw [read]

/-- The search through the same outputs in another order settles the rest of the verdict. -/
theorem judgeOutputs_of_shuffled {count : Int}
    (listed : outputs (field data "outputs") = .ok items)
    (otherListed : outputs (field otherData "outputs") = .ok others)
    (shuffled : items.Perm others) (finite : ∀ item ∈ items, ¬ Broken item .infinite) :
    SameVerdict (settle (judgeOutputs request data count))
        (settle (judgeOutputs request otherData count))
      ∨ Divided request items others (settle (judgeOutputs request data count))
          (settle (judgeOutputs request otherData count))
      ∨ Divided request others items (settle (judgeOutputs request otherData count))
          (settle (judgeOutputs request data count)) := by
  have readable {u : Unreadable} (broken : ∃ item ∈ items, Broken item u) : u ≠ .infinite := by
    rintro rfl
    obtain ⟨item, member, broken⟩ := broken
    exact finite item member broken
  rw [judgeOutputs_of_listed listed, judgeOutputs_of_listed otherListed]
  rcases ends_of_perm shuffled ends_matchOutputs ends_matchOutputs with
    same | ⟨u, v, left, right, broken, otherBroken⟩ | ⟨u, contested, left, right⟩
      | ⟨u, contested, left, right⟩
  · rw [same]
    exact Or.inl (.refl _)
  · rw [left, right]
    exact Or.inl (sameVerdict_of_unreadable (readable broken) (readable otherBroken))
  · have broken := contested.broken.imp fun _ h => And.intro h.1.mem h.2
    rw [left, right]
    exact Or.inr (Or.inl ⟨u, count, contested, settle_of_finite (readable broken), rfl⟩)
  · have broken : ∃ item ∈ items, Broken item u := by
      obtain ⟨item, reached, broken⟩ := contested.broken
      exact ⟨item, shuffled.mem_iff.mpr reached.mem, broken⟩
    rw [left, right]
    exact Or.inr (Or.inr ⟨u, count, contested, settle_of_finite (readable broken), rfl⟩)

/-- The order of the outputs makes no difference to the verdict, whatever they hold, unless some
output carries the amount and some output cannot be read. Where it makes one, the response cannot be
read in that order in which an unreadable output comes first. No amount is infinite here. -/
theorem verdict_of_shuffled {body shuffledBody : Text}
    (read : Json.ofText body = .ok (.object response))
    (readShuffled : Json.ofText shuffledBody = .ok (.object other))
    (differ : DifferIn "outputs" response other data otherData)
    (listed : field data "outputs" = .array items)
    (otherListed : field otherData "outputs" = .array others)
    (shuffled : items.Perm others) (finite : ∀ item ∈ items, ¬ Broken item .infinite) :
    (¬ Mixed request.amount items →
        SameVerdict (classify request body).result (classify request shuffledBody).result)
      ∧ (SameVerdict (classify request body).result (classify request shuffledBody).result
        ∨ Divided request items others (classify request body).result
            (classify request shuffledBody).result
        ∨ Divided request others items (classify request shuffledBody).result
            (classify request body).result) := by
  rw [classify_of_read read, classify_of_read readShuffled]
  have verdicts : SameVerdict (settle (judge request response).result)
        (settle (judge request other).result)
      ∨ Divided request items others (settle (judge request response).result)
          (settle (judge request other).result)
      ∨ Divided request others items (settle (judge request other).result)
          (settle (judge request response).result) := by
    rcases differ.of_outputs with same | ⟨count, left, right⟩
    · rw [same]
      exact Or.inl (.refl _)
    · rw [left, right]
      refine judgeOutputs_of_shuffled ?_ ?_ shuffled finite
      · rw [listed]
        exact outputs_orNull (some items)
      · rw [otherListed]
        exact outputs_orNull (some others)
  refine ⟨fun unmixed => ?_, verdicts⟩
  rcases verdicts with same | ⟨u, count, contested, _⟩ | ⟨u, count, contested, _⟩
  · exact same
  · exact absurd (contested.mixed shuffled) unmixed
  · exact absurd ((contested.mixed shuffled.symm).perm shuffled.symm) unmixed

end Verdict

section Quarter

def listedText (first second : Text) : Text :=
  quarterText "10" (List.flatten ["[", first, ", ", second, "]"])

theorem ofText_listedText_unreadable : Json.ofText (listedText "5" "\"x\"") =
    .ok (.object (quarterResponse (.int 10) (.array [.int 5, .string "x"]))) := by
  decide +kernel

theorem ofText_listedText_unreadable_shuffled : Json.ofText (listedText "\"x\"" "5") =
    .ok (.object (quarterResponse (.int 10) (.array [.string "x", .int 5]))) := by
  decide +kernel

/-- Two outputs that cannot be read, for one reason or for another. -/
theorem verdict_of_shuffled_unreadable :
    SameVerdict (classify quarterRequest (listedText "5" "\"x\"")).result
      (classify quarterRequest (listedText "\"x\"" "5")).result := by
  have finite : ∀ item ∈ [Json.int 5, .string "x"], ¬ Broken item .infinite := by
    intro item member broken
    rcases List.mem_pair.mp member with rfl | rfl
    · cases broken with
      | noFields broken => exact fields_ne_infinite broken
    · cases broken with
      | noFields broken => exact fields_ne_infinite broken
  have unmixed : ¬ Mixed quarterRequest.amount [.int 5, .string "x"] := by
    rintro ⟨⟨item, member, output, rfl, _⟩, _⟩
    simp at member
  exact (verdict_of_shuffled ofText_listedText_unreadable ofText_listedText_unreadable_shuffled
    (differIn_outputs _ _ _) rfl rfl (.swap _ _ []) finite).1 unmixed

theorem eq_ok_of_toOption {result : Except Fault Outcome} {outcome : Outcome}
    (h : result.toOption = some outcome) : result = .ok outcome := by
  cases result with
  | error fault => cases h
  | ok found => exact congrArg Except.ok (Option.some.inj h)

theorem ofText_listedText_unreadable_first : Json.ofText (listedText "5" quarterOutputText) =
    .ok (.object (quarterResponse (.int 10) (.array [.int 5, .object quarterOutput]))) := by
  decide +kernel

theorem ofText_listedText_unreadable_last : Json.ofText (listedText quarterOutputText "5") =
    .ok (.object (quarterResponse (.int 10) (.array [.object quarterOutput, .int 5]))) := by
  decide +kernel

theorem classify_unreadable_first :
    (classify quarterRequest (listedText "5" quarterOutputText)).result.toOption =
      some (.error .apiInvalid
        (some "AttributeError(\"'int' object has no attribute 'get'\")")) := by
  rw [classify_of_read ofText_listedText_unreadable_first]
  decide +kernel

theorem classify_unreadable_last :
    (classify quarterRequest (listedText quarterOutputText "5")).result.toOption =
      some .success := by
  rw [classify_of_read ofText_listedText_unreadable_last]
  decide +kernel

/-- The right output and one that cannot be read make a success or an unreadable response, whichever
of them comes first. -/
theorem first_output_decides :
    Json.ofText (listedText "5" quarterOutputText) =
        .ok (.object (quarterResponse (.int 10) (.array [.int 5, .object quarterOutput])))
      ∧ Json.ofText (listedText quarterOutputText "5") =
        .ok (.object (quarterResponse (.int 10) (.array [.object quarterOutput, .int 5])))
      ∧ DifferIn "outputs"
          (quarterResponse (.int 10) (.array [.int 5, .object quarterOutput]))
          (quarterResponse (.int 10) (.array [.object quarterOutput, .int 5]))
          (quarterData (.int 10) (.array [.int 5, .object quarterOutput]))
          (quarterData (.int 10) (.array [.object quarterOutput, .int 5]))
      ∧ [Json.int 5, .object quarterOutput].Perm [.object quarterOutput, .int 5]
      ∧ ¬ SameVerdict (classify quarterRequest (listedText "5" quarterOutputText)).result
          (classify quarterRequest (listedText quarterOutputText "5")).result := by
  refine ⟨ofText_listedText_unreadable_first, ofText_listedText_unreadable_last,
    differIn_outputs _ _ _, .swap _ _ [], ?_⟩
  rw [eq_ok_of_toOption classify_unreadable_first, eq_ok_of_toOption classify_unreadable_last]
  intro same
  cases same with
  | outcome tag _ => cases tag

end Quarter

end TransferProof.Classifier
