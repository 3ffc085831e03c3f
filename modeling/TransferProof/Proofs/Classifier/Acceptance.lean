import TransferProof.Proofs.Classifier.Numbers

/-!
# Accepted responses

A response that is taken for a success shows what a proof of the transfer has to show, whatever
kinds of values its fields hold. Its numbers, though, are looked at only after they were cut to
integers: a fraction of a piconero more than the expected amount, or a truth value for one piconero,
passes too. When cutting makes no difference is said exactly.
-/

namespace TransferProof.Classifier

open Json

/-- What a response shows about a transfer. `stands` says for which number a value stands. -/
structure Evidence (stands : Json → Rat → Prop) (request : Request)
    (response data : List (Text × Json)) (items : List Json) : Prop where
  status : field response "status" = .string "success"
  parts : field response "data" = .object data
  address : ∃ keys, Address.publicKeys request.recipientAddress = .ok keys
    ∧ lowerText (field data "address") = Text.ofBytes keys
  hash : lowerText (field data "tx_hash") = Text.lower request.txHash
  key : lowerText (field data "viewkey") = Text.lower request.txKey
  confirmations : ∃ count, stands (field data "tx_confirmations") count
    ∧ (request.requiredConfirmations : Rat) ≤ count
  outputs : field data "outputs" = .array items
  amount : ∃ output, .object output ∈ items ∧ field output "match" = .bool true
    ∧ stands (field output "amount") request.amount

def Shows (stands : Json → Rat → Prop) (request : Request) (body : Text) : Prop :=
  ∃ response data items, Json.ofText body = .ok (.object response)
    ∧ Evidence stands request response data items

def Stands (value : Json) (q : Rat) : Prop :=
  number? value = some q

def ReadAs (value : Json) (q : Rat) : Prop :=
  ∃ n : Int, integer value = .ok n ∧ q = n

/-- It makes no difference that the numbers of a response are cut: the count of confirmations is a
number, and not one below zero that is cut up to the required one, and the expected amount is found
where there is no fraction. -/
structure Uncut (request : Request) (data : List (Text × Json)) (items : List Json) : Prop where
  number : isTruth (field data "tx_confirmations") = false
  confirmations : IsWhole (field data "tx_confirmations")
    ∨ (∃ q, number? (field data "tx_confirmations") = some q ∧ 0 ≤ q)
    ∨ integer (field data "tx_confirmations") ≠ .ok request.requiredConfirmations
  amount : ∃ output, .object output ∈ items ∧ field output "match" = .bool true
    ∧ integer (field output "amount") = .ok request.amount ∧ IsWhole (field output "amount")

section Stages

variable {request : Request} {data response : List (Text × Json)}

/-- Only an array holds objects among its outputs. -/
theorem outputs_of_object_mem {value : Json} {items : List Json} {output : List (Text × Json)}
    (h : outputs value = .ok items) (member : .object output ∈ items) : value = .array items := by
  unfold outputs at h
  split at h
  case isTrue empty =>
    obtain rfl := Except.ok.inj h
    cases member
  case isFalse nonempty =>
    cases value with
    | array all => exact congrArg Json.array (Except.ok.inj h)
    | object fields =>
      obtain rfl := Except.ok.inj h
      obtain ⟨f, _, impossible⟩ := List.mem_map.mp member
      cases impossible
    | string text =>
      obtain rfl := Except.ok.inj h
      obtain ⟨c, _, impossible⟩ := List.mem_map.mp member
      cases impossible
    | _ => cases h

/-- The search ends with the expected amount only at an output that is ours and carries it. -/
theorem matchOutputs_expected {amount : Int} {seen : Match} {items : List Json}
    (unseen : seen ≠ .expectedAmount)
    (h : matchOutputs amount seen items = .ok .expectedAmount) :
    ∃ output, .object output ∈ items ∧ field output "match" = .bool true
      ∧ integer (field output "amount") = .ok amount := by
  induction items generalizing seen with
  | nil => exact absurd (Except.ok.inj h) unseen
  | cons item rest ih =>
    have later {seen : Match} (unseen : seen ≠ .expectedAmount)
        (h : matchOutputs amount seen rest = .ok .expectedAmount) :
        ∃ output, .object output ∈ item :: rest ∧ field output "match" = .bool true
          ∧ integer (field output "amount") = .ok amount := by
      obtain ⟨output, member, found⟩ := ih unseen h
      exact ⟨output, List.mem_cons_of_mem _ member, found⟩
    rw [matchOutputs] at h
    cases item with
    | object output =>
      dsimp only [fields] at h
      split at h
      case h_1 ours =>
        split at h
        case h_1 => cases h
        case h_2 found read =>
          split at h
          case isTrue same => exact ⟨output, List.mem_cons_self, ours, same ▸ read⟩
          case isFalse => exact later (by decide) h
      case h_2 => exact later unseen h
    | _ => cases h

theorem judgeOutputs_success {confirmations : Int}
    (h : judgeOutputs request data confirmations = .ok .success) :
    ∃ items, field data "outputs" = .array items
      ∧ request.requiredConfirmations ≤ confirmations
      ∧ ∃ output, .object output ∈ items ∧ field output "match" = .bool true
        ∧ integer (field output "amount") = .ok request.amount := by
  rw [judgeOutputs] at h
  split at h
  case h_1 => cases h
  case h_2 items read =>
    split at h
    case h_1 => cases h
    case h_2 => cases h
    case h_3 => cases h
    case h_4 found =>
      split at h
      case isTrue => cases h
      case isFalse enough =>
        have paid := matchOutputs_expected (by decide) found
        obtain ⟨output, member, _⟩ := id paid
        exact ⟨items, outputs_of_object_mem read member, Int.not_lt.mp enough, paid⟩

theorem judgeConfirmations_success (h : (judgeConfirmations request data).result = .ok .success) :
    ∃ count, integer (field data "tx_confirmations") = .ok count
      ∧ judgeOutputs request data count = .ok .success := by
  rw [judgeConfirmations] at h
  split at h
  case h_1 => cases h
  case h_2 value present =>
    split at h
    case h_1 => cases h
    case h_2 count read => exact ⟨count, read, h⟩

theorem judgeDate_success (h : (judgeDate request data).result = .ok .success) :
    (judgeConfirmations request data).result = .ok .success := by
  rw [judgeDate] at h
  split at h
  case h_1 => cases h
  case h_2 value present =>
    split at h
    case h_1 => cases h
    case h_2 => cases h
    case h_3 tradeDate timestamp _ _ =>
      split at h
      case isTrue => cases h
      case isFalse => exact h

theorem judgeKey_success (h : (judgeKey request data).result = .ok .success) :
    lowerText (field data "viewkey") = Text.lower request.txKey
      ∧ (judgeDate request data).result = .ok .success := by
  rw [judgeKey] at h
  split at h
  case h_1 => cases h
  case h_2 value present =>
    split at h
    case isTrue same => exact ⟨same, h⟩
    case isFalse => cases h

theorem judgeHash_success (h : (judgeHash request data).result = .ok .success) :
    lowerText (field data "tx_hash") = Text.lower request.txHash
      ∧ (judgeKey request data).result = .ok .success := by
  rw [judgeHash] at h
  split at h
  case h_1 => cases h
  case h_2 value present =>
    split at h
    case isTrue same => exact ⟨same, h⟩
    case isFalse => cases h

theorem judgeData_success (h : (judgeData request data).result = .ok .success) :
    (∃ keys, Address.publicKeys request.recipientAddress = .ok keys
      ∧ lowerText (field data "address") = Text.ofBytes keys)
      ∧ (judgeHash request data).result = .ok .success := by
  rw [judgeData] at h
  split at h
  case h_1 => cases h
  case h_2 value present =>
    split at h
    case h_1 => cases h
    case h_2 expected echoed =>
      split at h
      case isTrue same =>
        rw [Address.echo] at echoed
        cases decoded : Address.publicKeys request.recipientAddress with
        | error fault => simp [decoded, Except.map] at echoed
        | ok keys =>
          rw [decoded] at echoed
          obtain rfl := Except.ok.inj echoed
          exact ⟨⟨keys, rfl, same⟩, h⟩
      case isFalse => cases h

theorem isText_iff {value : Json} {text : Text} :
    isText value text = true ↔ value = .string text := by
  cases value with
  | string t => simp [isText]
  | _ => simp [isText]

theorem judge_success (h : (judge request response).result = .ok .success) :
    field response "status" = .string "success"
      ∧ ∃ data, field response "data" = .object data
        ∧ (judgeData request data).result = .ok .success := by
  rw [judge] at h
  split at h
  case h_1 => cases h
  case h_2 => cases h
  case h_3 missing present =>
    split at h
    case isTrue => cases h
    case isFalse =>
      split at h
      case isTrue success =>
        refine ⟨isText_iff.mp success, ?_⟩
        cases found : field response "data" with
        | object data =>
          rw [found] at h
          exact ⟨data, rfl, h⟩
        | _ =>
          rw [found] at h
          cases h
      case isFalse => cases h

theorem settle_success {result : Except Unreadable Outcome} (h : settle result = .ok .success) :
    result = .ok .success := by
  unfold settle at h
  split at h
  case h_1 outcome => exact congrArg Except.ok (Except.ok.inj h)
  case h_2 => cases h
  case h_3 => cases h

end Stages

section Cutting

variable {value : Json} {n : Int}

/-- A value that is read as an integer stands for it just if it has no fraction. -/
theorem stands_iff_isWhole (read : integer value = .ok n) : Stands value n ↔ IsWhole value := by
  constructor
  · intro stands
    exact ⟨n, stands⟩
  · rintro ⟨m, whole⟩
    have cut := integer_of_number? whole
    rw [truncated_intCast, read] at cut
    obtain rfl := Except.ok.inj cut
    exact whole

theorem isTruth_of_number? {q : Rat} (h : number? value = some q) : isTruth value = false := by
  cases value with
  | bool flag => cases h
  | _ => rfl

/-- A value below zero that is cut up to an integer stands for no less than this integer only if it
has no fraction. -/
theorem isWhole_of_le {q : Rat} (h : number? value = some q) (negative : ¬ 0 ≤ q)
    (reaches : (truncated q : Rat) ≤ q) : IsWhole value := by
  have up : q ≤ truncated q := by
    rw [truncated, if_neg negative]
    exact Int.le_ceil q
  exact ⟨truncated q, h.trans (congrArg some (le_antisymm up reaches))⟩

/-- A value that is read as enough stands for enough unless it is a truth value or was cut up to
just the number that is required. -/
theorem stands_enough_iff {required : Int} (read : integer value = .ok n) (enough : required ≤ n) :
    (∃ count, Stands value count ∧ (required : Rat) ≤ count) ↔
      isTruth value = false ∧ (IsWhole value ∨ (∃ q, number? value = some q ∧ 0 ≤ q)
        ∨ integer value ≠ .ok required) := by
  constructor
  · rintro ⟨q, stands, reaches⟩
    refine ⟨isTruth_of_number? stands, ?_⟩
    by_cases nonneg : 0 ≤ q
    · exact Or.inr (Or.inl ⟨q, stands, nonneg⟩)
    · by_cases exactly : integer value = .ok required
      · have cut := integer_of_number? stands
        rw [exactly] at cut
        obtain rfl := Except.ok.inj cut
        exact Or.inl (isWhole_of_le stands nonneg reaches)
      · exact Or.inr (Or.inr exactly)
  · rintro ⟨number, ways⟩
    obtain ⟨q, stands, rfl⟩ := number?_of_integer read number
    refine ⟨q, stands, ?_⟩
    have enoughCut : (required : Rat) ≤ truncated q := by exact_mod_cast enough
    rcases ways with ⟨m, whole⟩ | ⟨p, same, nonneg⟩ | other
    · obtain rfl := Option.some.inj (stands.symm.trans whole)
      rwa [truncated_intCast] at enoughCut
    · obtain rfl := Option.some.inj (stands.symm.trans same)
      exact enoughCut.trans (truncated_le_of_nonneg nonneg)
    · have more : required + 1 ≤ truncated q := by
        have differ : required ≠ truncated q := by
          rintro rfl
          exact other read
        omega
      have moreCut : (required : Rat) + 1 ≤ truncated q := by exact_mod_cast more
      have near := lt_truncated_add_one q
      linarith

end Cutting

/-- Some output of a response is ours and states just this amount. -/
def statesAmount (body : Text) (amount : Int) : Bool :=
  match Json.ofText body with
  | .ok (.object response) =>
    match field response "data" with
    | .object data =>
      match field data "outputs" with
      | .array items => items.any fun item =>
        match item with
        | .object output =>
          match field output "match" with
          | .bool true => number? (field output "amount") == some (amount : Rat)
          | _ => false
        | _ => false
      | _ => false
    | _ => false
  | _ => false

theorem statesAmount_of_shows {request : Request} {body : Text}
    (shows : Shows Stands request body) : statesAmount body request.amount = true := by
  obtain ⟨response, data, items, reading, evidence⟩ := shows
  obtain ⟨output, member, ours, stands⟩ := evidence.amount
  rw [statesAmount, reading]
  dsimp only
  rw [evidence.parts]
  dsimp only
  rw [evidence.outputs]
  refine List.any_eq_true.mpr ⟨.object output, member, ?_⟩
  dsimp only
  rw [ours, show number? (field output "amount") = some (request.amount : Rat) from stands]
  exact beq_self_eq_true _

/-- The data and the outputs of a response are determined by its body. -/
theorem evidence_of_shows {stands reads : Json → Rat → Prop} {request : Request} {body : Text}
    {response data : List (Text × Json)} {items : List Json}
    (reading : Json.ofText body = .ok (.object response))
    (evidence : Evidence reads request response data items) (shows : Shows stands request body) :
    Evidence stands request response data items := by
  obtain ⟨response', data', items', reading', evidence'⟩ := shows
  obtain rfl := Json.object.inj (Except.ok.inj (reading.symm.trans reading'))
  obtain rfl := Json.object.inj (evidence.parts.symm.trans evidence'.parts)
  obtain rfl := Json.array.inj (evidence.outputs.symm.trans evidence'.outputs)
  exact evidence'

/-- A response that is taken for a success is evidence of the transfer by the integers it is read
as. It is evidence by the numbers that it states just if cutting makes no difference. -/
theorem evidence_of_success {request : Request} {body : Text}
    (accepted : (classify request body).result = .ok .success) :
    ∃ response data items, Json.ofText body = .ok (.object response)
      ∧ Evidence ReadAs request response data items
      ∧ (Shows Stands request body ↔ Uncut request data items) := by
  rw [classify] at accepted
  split at accepted
  case h_1 => cases accepted
  case h_3 => cases accepted
  case h_2 response reading =>
    obtain ⟨status, data, parts, accepted⟩ := judge_success (settle_success accepted)
    obtain ⟨address, accepted⟩ := judgeData_success accepted
    obtain ⟨hash, accepted⟩ := judgeHash_success accepted
    obtain ⟨key, accepted⟩ := judgeKey_success accepted
    obtain ⟨count, read, accepted⟩ := judgeConfirmations_success (judgeDate_success accepted)
    obtain ⟨items, outputs, enough, paid⟩ := judgeOutputs_success accepted
    have evidence : Evidence ReadAs request response data items := by
      refine ⟨status, parts, address, hash, key, ?_, outputs, ?_⟩
      · exact ⟨count, ⟨count, read, rfl⟩, by exact_mod_cast enough⟩
      · obtain ⟨output, member, ours, found⟩ := paid
        exact ⟨output, member, ours, request.amount, found, rfl⟩
    refine ⟨response, data, items, reading, evidence, ?_⟩
    constructor
    · intro shows
      have exactly := evidence_of_shows reading evidence shows
      obtain ⟨number, ways⟩ := (stands_enough_iff read enough).mp exactly.confirmations
      obtain ⟨output, member, ours, stands⟩ := exactly.amount
      have cut := integer_of_number? stands
      rw [truncated_intCast] at cut
      exact ⟨number, ways, output, member, ours, cut, _, stands⟩
    · intro uncut
      obtain ⟨output, member, ours, found, whole⟩ := uncut.amount
      refine ⟨response, data, items, reading, status, parts, address, hash, key, ?_, outputs,
        output, member, ours, ?_⟩
      · exact (stands_enough_iff read enough).mpr ⟨uncut.number, uncut.confirmations⟩
      · exact (stands_iff_isWhole found).mpr whole

section Fraction

def quarterRequest : Request where
  txHash := "5e665addf6d7c630"
  recipientAddress := List.flatten ["41d7ke5VQnR2BDNSgrTE9j3X", "8QQ5Bnbbs4s3SMTX7y416CxU",
    "JqrTLW97YsWGEBnhxH8tnYDc", "X85QRAEhaAzrTSrZ87FVHzP"]
  txKey := "f3ce66c9d395e5e4"
  serviceAddress := "node.example"
  tradeId := "a1b2c3d4"
  amount := 1250000000000
  tradeDate := .ofInt 1600000000
  requiredConfirmations := 10
  firstRequest := 0

def quarterBody (amount : Text) : Text :=
  List.flatten ["\x7b\"status\": \"success\", ", "\"data\": \x7b\"address\": \"",
    Text.ofBytes ((List.range 64).map UInt8.ofNat), "\", \"tx_hash\": \"", "5e665addf6d7c630",
    "\", \"viewkey\": \"", "f3ce66c9d395e5e4", "\", \"tx_timestamp\": ", "1600000000",
    ", \"tx_confirmations\": ", "10", ", \"outputs\": [\x7b", "\"match\": true, \"amount\": ",
    amount, "\x7d]\x7d\x7d"]

theorem fraction_accepted :
    (classify quarterRequest (quarterBody "1250000000000.5")).result = .ok .success := by
  have accepted : (classify quarterRequest (quarterBody "1250000000000.5")).result.toOption =
      some .success := by decide +kernel
  cases result : (classify quarterRequest (quarterBody "1250000000000.5")).result with
  | error fault => simp [result, Except.toOption] at accepted
  | ok outcome =>
    rw [result] at accepted
    exact congrArg Except.ok (Option.some.inj accepted)

theorem evidence_of_success_fraction :
    Shows ReadAs quarterRequest (quarterBody "1250000000000.5") := by
  obtain ⟨response, data, items, reading, evidence, _⟩ := evidence_of_success fraction_accepted
  exact ⟨response, data, items, reading, evidence⟩

/-- Half a piconero too much makes it another amount, and it is taken for a success. -/
theorem fraction_is_no_evidence :
    (classify quarterRequest (quarterBody "1250000000000.5")).result = .ok .success
      ∧ ¬ Shows Stands quarterRequest (quarterBody "1250000000000.5") := by
  refine ⟨fraction_accepted, ?_⟩
  intro shows
  have states := statesAmount_of_shows shows
  have other : statesAmount (quarterBody "1250000000000.5") quarterRequest.amount = false := by
    decide +kernel
  rw [other] at states
  cases states

end Fraction

end TransferProof.Classifier
