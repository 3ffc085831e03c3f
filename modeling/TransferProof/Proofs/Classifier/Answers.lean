import TransferProof.Poll

/-!
# The answers of the classifier

Whatever a service sends, the classifier has only a few answers to it. None of them says that the
time is over: to find that is left to the verifier.
-/

namespace TransferProof.Classifier

def requiredFields : List Text :=
  ["address", "tx_hash", "viewkey", "tx_timestamp", "tx_confirmations"]

inductive Complaint : Text → Prop where
  | noObject : Complaint "Empty json"
  | incomplete : Complaint "Missing data / status fields"
  | missing {name : Text} (field : name ∈ requiredFields) :
    Complaint ("Missing " ++ name ++ " field")
  | unreadable (u : Unreadable) : Complaint u.toFault.shown

inductive Listed (request : Request) : Outcome → Prop where
  | success : Listed request .success
  | unseen : Listed request (.pending (.ofKind .txNotFound))
  | unconfirmed {count : Int} (few : count < request.requiredConfirmations) :
      Listed request (.pending (.ofConfirmations count))
  | failed {kind : DetailKind} (told : kind ∈ [.txHashInvalid, .txKeyInvalid, .addressInvalid,
      .noMatchFound, .amountNotMatching, .tradeDateNotMatching]) : Listed request (.failed kind)
  | failure : Listed request (.error .apiFailure (some "Unhandled status value"))
  | invalid {message : Text} (complaint : Complaint message) :
      Listed request (.error .apiInvalid (some message))

def Answers {ε : Type} (request : Request) (result : Except ε Outcome) : Prop :=
  ∀ outcome, result = .ok outcome → Listed request outcome

/-- A complaint has another first letter than the words about a body that is no document. -/
theorem Complaint.head {message : Text} (complaint : Complaint message) :
    ∃ c rest, message = c :: rest ∧ c ≠ 'I'.toNat := by
  cases complaint with
  | noObject => exact ⟨'E'.toNat, _, rfl, by decide⟩
  | incomplete => exact ⟨'M'.toNat, _, rfl, by decide⟩
  | missing field => exact ⟨'M'.toNat, _, rfl, by decide⟩
  | unreadable u =>
    cases u with
    | noFields kind => exact ⟨'A'.toNat, _, rfl, by decide⟩
    | notIterable kind => exact ⟨'T'.toNat, _, rfl, by decide⟩
    | notNumeric kind => exact ⟨'T'.toNat, _, rfl, by decide⟩
    | notANumber => exact ⟨'V'.toNat, _, rfl, by decide⟩
    | infinite => exact ⟨'O'.toNat, _, rfl, by decide⟩
    | badInteger fault => exact ⟨'V'.toNat, _, rfl, by decide⟩

theorem Complaint.ne_nil {message : Text} (complaint : Complaint message) : message ≠ [] := by
  obtain ⟨c, rest, rfl, -⟩ := complaint.head
  exact List.cons_ne_nil c rest

section Stages

variable {request : Request} {data response : List (Text × Json)}

theorem answers_of_listed {ε : Type} {outcome : Outcome} (listed : Listed request outcome) :
    Answers (ε := ε) request (.ok outcome) := by
  intro other same
  obtain rfl := Except.ok.inj same
  exact listed

theorem answers_error {ε : Type} (e : ε) : Answers request (.error e) := by
  intro outcome impossible
  cases impossible

theorem answers_missing {name : Text} (field : name ∈ requiredFields) :
    Answers request (Judgement.missing name).result :=
  answers_of_listed (.invalid (.missing field))

theorem answers_judgeOutputs (count : Int) : Answers request (judgeOutputs request data count) := by
  rw [judgeOutputs]
  split
  · exact answers_error _
  · split
    · exact answers_error _
    · exact answers_of_listed (.failed (by decide))
    · exact answers_of_listed (.failed (by decide))
    · split
      case isTrue few => exact answers_of_listed (.unconfirmed few)
      case isFalse => exact answers_of_listed .success

theorem answers_judgeConfirmations : Answers request (judgeConfirmations request data).result := by
  rw [judgeConfirmations]
  split
  · exact answers_missing (by decide)
  · split
    · exact answers_error _
    · exact answers_judgeOutputs _

theorem answers_judgeDate : Answers request (judgeDate request data).result := by
  rw [judgeDate]
  split
  · exact answers_missing (by decide)
  · split
    · exact answers_error _
    · exact answers_error _
    · split
      · exact answers_of_listed (.failed (by decide))
      · exact answers_judgeConfirmations

theorem answers_judgeKey : Answers request (judgeKey request data).result := by
  rw [judgeKey]
  split
  · exact answers_missing (by decide)
  · split
    · exact answers_judgeDate
    · exact answers_of_listed (.failed (by decide))

theorem answers_judgeHash : Answers request (judgeHash request data).result := by
  rw [judgeHash]
  split
  · exact answers_missing (by decide)
  · split
    · exact answers_judgeKey
    · exact answers_of_listed (.failed (by decide))

theorem answers_judgeData : Answers request (judgeData request data).result := by
  rw [judgeData]
  split
  · exact answers_missing (by decide)
  · split
    · exact answers_of_listed (.failed (by decide))
    · split
      · exact answers_judgeHash
      · exact answers_of_listed (.failed (by decide))

theorem answers_judge : Answers request (judge request response).result := by
  rw [judge]
  split
  · exact answers_of_listed (.invalid .incomplete)
  · exact answers_of_listed (.invalid .incomplete)
  · split
    · exact answers_of_listed .unseen
    · split
      · split
        · exact answers_error _
        · exact answers_judgeData
      · exact answers_of_listed .failure

theorem answers_settle {result : Except Unreadable Outcome} (answers : Answers request result) :
    Answers request (settle result) := by
  unfold settle
  split
  case h_1 outcome => exact answers_of_listed (answers outcome rfl)
  case h_2 => exact answers_error _
  case h_3 => exact answers_of_listed (.invalid (.unreadable _))

end Stages

theorem answers_classify (request : Request) {body : Text} {document : Json}
    (read : Json.ofText body = .ok document) : Answers request (classify request body).result := by
  rw [classify, read]
  cases document with
  | object response => exact answers_settle answers_judge
  | _ => exact answers_of_listed (.invalid .noObject)

theorem Listed.ne_overdueOutcome {request : Request} {outcome : Outcome}
    (listed : Listed request outcome) :
    outcome ≠ Verifier.overdueOutcome := by
  cases listed <;> simp [Verifier.overdueOutcome, Outcome.success, Outcome.pending, Outcome.failed,
    Outcome.error]

end TransferProof.Classifier

namespace TransferProof

/-- The result of some poll of a verifier with this request, through any client, with any reply and
classified as the checker does. -/
def PollResult.Genuine (request : Request) (result : PollResult) : Prop :=
  ∃ (v : Verifier) (client : Client) (provider : Option ProxyAnswer) (agent : Text)
    (session : Call → Reply), v.request = request
      ∧ result = Poll.run v client provider agent session (.standard request)

/-- What a poll has received is a document. -/
theorem Poll.ofText_of_received {v : Verifier} {client : Client} {provider : Option ProxyAnswer}
    {agent : Text} {session : Call → Reply} {body : Text} {document : Json}
    (received : (Poll.ask v client provider agent session).received = .ok (body, document)) :
    Json.ofText body = .ok document := by
  rw [Poll.ask] at received
  dsimp only at received
  split at received
  case h_1 other result =>
    rw [Poll.read] at received
    split at received
    case h_1 read =>
      obtain ⟨rfl, rfl⟩ := Prod.mk.inj (Except.ok.inj received)
      exact read
    case h_2 => cases received
  case h_2 => cases received

/-- A poll fails, or it brings one of the answers of the classifier. -/
theorem PollResult.Genuine.fault_or_listed {request : Request} {result : PollResult}
    (genuine : PollResult.Genuine request result) :
    (∃ fault, result = .error fault)
      ∨ ∃ outcome, result = .ok (.outcome outcome) ∧ Classifier.Listed request outcome := by
  obtain ⟨v, client, provider, agent, session, _, rfl⟩ := genuine
  rw [Poll.run, Poll.conclude]
  split
  case h_1 fault received => exact .inl ⟨fault, rfl⟩
  case h_2 body document received =>
    have answers := Classifier.answers_classify request (Poll.ofText_of_received received)
    rw [BodyClassifier.standard]
    cases classified : (Classifier.classify request body).result with
    | error fault => exact .inl ⟨fault, rfl⟩
    | ok outcome => exact .inr ⟨outcome, rfl, answers _ classified⟩

theorem PollResult.Genuine.ne_overdue {request : Request} {result : PollResult}
    (genuine : PollResult.Genuine request result) :
    result ≠ .ok (.outcome Verifier.overdueOutcome) := by
  rcases genuine.fault_or_listed with ⟨fault, rfl⟩ | ⟨outcome, rfl, listed⟩
  · exact fun impossible => nomatch impossible
  · intro same
    exact listed.ne_overdueOutcome (Answer.outcome.inj (Except.ok.inj same))

end TransferProof
