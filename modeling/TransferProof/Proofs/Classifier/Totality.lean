import TransferProof.Proofs.Classifier.Acceptance

/-!
# Responses that cannot be read

Where the checks of a response come upon a part that cannot be read, the response is invalid, and
that is an outcome like any other. There is one exception: an infinite number that is to be cut to
an integer is a fault of the classification itself. When that happens is said exactly.
-/

namespace TransferProof.Classifier

open Json

/-- The value is there, and is this text in lower case. -/
def Spells (value : Json) (text : Text) : Prop :=
  value ≠ .null ∧ lowerText value = text

/-- The response is a success, and its data name the recipient and the transaction that were asked
for. -/
structure Named (request : Request) (response data : List (Text × Json)) : Prop where
  status : field response "status" = .string "success"
  parts : field response "data" = .object data
  address : ∃ keys, Address.publicKeys request.recipientAddress = .ok keys
    ∧ Spells (field data "address") (Text.ofBytes keys)
  hash : Spells (field data "tx_hash") (Text.lower request.txHash)
  key : Spells (field data "viewkey") (Text.lower request.txKey)

/-- Beyond that, the transaction is not too old for the trade. -/
structure Recent (request : Request) (response data : List (Text × Json)) : Prop
    extends Named request response data where
  date : ∃ date timestamp, integerOfDouble request.tradeDate = .ok date
    ∧ integer (field data "tx_timestamp") = .ok timestamp ∧ date - timestamp ≤ dateTolerance

/-- Beyond that, the number of confirmations is known. -/
structure Counted (request : Request) (response data : List (Text × Json)) : Prop
    extends Recent request response data where
  confirmations : ∃ count, integer (field data "tx_confirmations") = .ok count

/-- The search for the amount reads this output and goes on to the next. -/
def Passes (amount : Int) (item : Json) : Prop :=
  ∃ output, item = .object output ∧ (field output "match" = .bool true →
    ∃ found, integer (field output "amount") = .ok found ∧ found ≠ amount)

inductive Broken : Json → Unreadable → Prop where
  | noFields {item : Json} {u : Unreadable} (broken : fields item = .error u) : Broken item u
  | amount {output : List (Text × Json)} {u : Unreadable}
      (ours : field output "match" = .bool true)
      (broken : integer (field output "amount") = .error u) : Broken (.object output) u

/-- The checks of a response come upon a part that cannot be read, before anything else has decided
the outcome. -/
inductive Stumbles (request : Request) (response : List (Text × Json)) : Unreadable → Prop where
  | data {u : Unreadable} (status : field response "status" = .string "success")
      (given : field response "data" ≠ .null) (broken : fields (field response "data") = .error u) :
      Stumbles request response u
  | date {u : Unreadable} {data : List (Text × Json)} (named : Named request response data)
      (given : field data "tx_timestamp" ≠ .null)
      (broken : integerOfDouble request.tradeDate = .error u) : Stumbles request response u
  | timestamp {u : Unreadable} {data : List (Text × Json)} {date : Int}
      (named : Named request response data) (given : field data "tx_timestamp" ≠ .null)
      (read : integerOfDouble request.tradeDate = .ok date)
      (broken : integer (field data "tx_timestamp") = .error u) : Stumbles request response u
  | confirmations {u : Unreadable} {data : List (Text × Json)}
      (recent : Recent request response data) (given : field data "tx_confirmations" ≠ .null)
      (broken : integer (field data "tx_confirmations") = .error u) : Stumbles request response u
  | outputs {u : Unreadable} {data : List (Text × Json)} (counted : Counted request response data)
      (broken : outputs (field data "outputs") = .error u) : Stumbles request response u
  | output {u : Unreadable} {data : List (Text × Json)} {before after : List Json} {item : Json}
      (counted : Counted request response data)
      (listed : outputs (field data "outputs") = .ok (before ++ item :: after))
      (passed : ∀ other ∈ before, Passes request.amount other) (broken : Broken item u) :
      Stumbles request response u

section Stages

variable {request : Request} {data response : List (Text × Json)} {u : Unreadable}

/-- What was seen before does not matter to whether the rest can be read. -/
theorem matchOutputs_error_iff {amount : Int} {seen : Match} {items : List Json} :
    matchOutputs amount seen items = .error u ↔
      ∃ before item after, items = before ++ item :: after
        ∧ (∀ other ∈ before, Passes amount other) ∧ Broken item u := by
  constructor
  · intro stuck
    induction items generalizing seen with
    | nil => cases stuck
    | cons item rest ih =>
      have later {seen : Match} (passes : Passes amount item)
          (stuck : matchOutputs amount seen rest = .error u) :
          ∃ before other after, item :: rest = before ++ other :: after
            ∧ (∀ other ∈ before, Passes amount other) ∧ Broken other u := by
        obtain ⟨before, other, after, rfl, passed, broken⟩ := ih stuck
        refine ⟨item :: before, other, after, rfl, ?_, broken⟩
        intro x member
        rcases List.mem_cons.mp member with rfl | member
        · exact passes
        · exact passed x member
      rw [matchOutputs] at stuck
      split at stuck
      case h_1 e noFields =>
        obtain rfl := Except.error.inj stuck
        exact ⟨[], item, rest, rfl, by simp, .noFields noFields⟩
      case h_2 parts read =>
        obtain rfl : item = .object parts := by
          cases item with
          | object fields => exact congrArg Json.object (Except.ok.inj read)
          | _ => cases read
        split at stuck
        case h_1 ours =>
          split at stuck
          case h_1 e broken =>
            obtain rfl := Except.error.inj stuck
            exact ⟨[], _, rest, rfl, by simp, .amount ours broken⟩
          case h_2 found counted =>
            split at stuck
            case isTrue => cases stuck
            case isFalse other =>
              exact later ⟨parts, rfl, fun _ => ⟨found, counted, other⟩⟩ stuck
        case h_2 others => exact later ⟨parts, rfl, fun ours => absurd ours others⟩ stuck
  · rintro ⟨before, item, after, rfl, passed, broken⟩
    induction before generalizing seen with
    | nil =>
      cases broken with
      | noFields broken => rw [List.nil_append, matchOutputs, broken]
      | amount ours broken =>
        rw [List.nil_append, matchOutputs]
        dsimp only [fields]
        rw [ours, broken]
    | cons first rest ih =>
      obtain ⟨output, rfl, ours⟩ := passed first List.mem_cons_self
      have stuck (seen : Match) : matchOutputs amount seen (rest ++ item :: after) = .error u :=
        ih fun other member => passed other (List.mem_cons_of_mem _ member)
      rw [List.cons_append, matchOutputs]
      dsimp only [fields]
      split
      case h_1 isOurs =>
        obtain ⟨found, counted, other⟩ := ours isOurs
        rw [counted]
        dsimp only
        rw [if_neg other]
        exact stuck _
      case h_2 => exact stuck _

theorem judgeOutputs_error_iff {count : Int} :
    judgeOutputs request data count = .error u ↔
      outputs (field data "outputs") = .error u ∨ ∃ items,
        outputs (field data "outputs") = .ok items
          ∧ matchOutputs request.amount .none items = .error u := by
  rw [judgeOutputs]
  cases outputs (field data "outputs") with
  | error e => simp
  | ok items =>
    dsimp only
    cases found : matchOutputs request.amount .none items with
    | error e => simp [found]
    | ok seen =>
      cases seen with
      | expectedAmount =>
        dsimp only
        split <;> simp [found]
      | _ => simp [found]

theorem judgeConfirmations_error_iff :
    (judgeConfirmations request data).result = .error u ↔
      (field data "tx_confirmations" ≠ .null ∧ integer (field data "tx_confirmations") = .error u)
        ∨ ∃ count, integer (field data "tx_confirmations") = .ok count
          ∧ judgeOutputs request data count = .error u := by
  rw [judgeConfirmations]
  split
  case h_1 absent => simp [absent, integer, Judgement.missing, Judgement.of]
  case h_2 given =>
    have given : field data "tx_confirmations" ≠ .null := given
    cases integer (field data "tx_confirmations") with
    | error e => simpa [Judgement.unreadable] using fun _ => given
    | ok count => simp

theorem judgeDate_error_iff :
    (judgeDate request data).result = .error u ↔
      (field data "tx_timestamp" ≠ .null ∧ integerOfDouble request.tradeDate = .error u)
        ∨ (field data "tx_timestamp" ≠ .null
          ∧ (∃ date, integerOfDouble request.tradeDate = .ok date)
          ∧ integer (field data "tx_timestamp") = .error u)
        ∨ ((∃ date timestamp, integerOfDouble request.tradeDate = .ok date
            ∧ integer (field data "tx_timestamp") = .ok timestamp
            ∧ date - timestamp ≤ dateTolerance)
          ∧ (judgeConfirmations request data).result = .error u) := by
  rw [judgeDate]
  split
  case h_1 absent => simp [absent, integer, Judgement.missing, Judgement.of]
  case h_2 given =>
    have given : field data "tx_timestamp" ≠ .null := given
    cases integerOfDouble request.tradeDate with
    | error e => simpa [Judgement.unreadable] using fun _ => given
    | ok date =>
      cases integer (field data "tx_timestamp") with
      | error e => simpa [Judgement.unreadable] using fun _ => given
      | ok timestamp =>
        by_cases old : dateTolerance < date - timestamp
        · have tooOld : ¬ date - timestamp ≤ dateTolerance := Int.not_le.mpr old
          simp [-tsub_le_iff_right, old, tooOld, Judgement.of]
        · have recent : date - timestamp ≤ dateTolerance := Int.not_lt.mp old
          simp [-tsub_le_iff_right, old, recent]

/-- A check of a text that passes leaves the rest to the checks after it. -/
theorem spelled_error_iff {value : Json} {name text : Text} {outcome : Outcome}
    {next : Judgement} :
    (match value with
      | .null => Judgement.missing name
      | value => if lowerText value = text then next else .of outcome).result = .error u ↔
        Spells value text ∧ next.result = .error u := by
  rw [Spells]
  cases value with
  | null => simp [Judgement.missing, Judgement.of]
  | _ =>
    dsimp only
    split
    case isTrue same => simp [same]
    case isFalse other => simp [other, Judgement.of]

theorem judgeKey_error_iff :
    (judgeKey request data).result = .error u ↔
      Spells (field data "viewkey") (Text.lower request.txKey)
        ∧ (judgeDate request data).result = .error u :=
  spelled_error_iff

theorem judgeHash_error_iff :
    (judgeHash request data).result = .error u ↔
      Spells (field data "tx_hash") (Text.lower request.txHash)
        ∧ (judgeKey request data).result = .error u :=
  spelled_error_iff

theorem judgeData_error_iff :
    (judgeData request data).result = .error u ↔
      (∃ keys, Address.publicKeys request.recipientAddress = .ok keys
        ∧ Spells (field data "address") (Text.ofBytes keys))
        ∧ (judgeHash request data).result = .error u := by
  rw [judgeData, Address.echo]
  cases Address.publicKeys request.recipientAddress with
  | error fault => split <;> simp [Judgement.missing, Judgement.of, Except.map]
  | ok keys =>
    constructor
    · intro stuck
      obtain ⟨spelled, stuck⟩ := spelled_error_iff.mp stuck
      exact ⟨⟨keys, rfl, spelled⟩, stuck⟩
    · rintro ⟨⟨_, same, spelled⟩, stuck⟩
      obtain rfl := Except.ok.inj same
      exact spelled_error_iff.mpr ⟨spelled, stuck⟩

theorem judge_error_iff_judgeData :
    (judge request response).result = .error u ↔
      field response "status" = .string "success" ∧ field response "data" ≠ .null
        ∧ (fields (field response "data") = .error u ∨ ∃ data,
          field response "data" = .object data ∧ (judgeData request data).result = .error u) := by
  rw [judge]
  split
  case h_1 absent => simp [absent, Judgement.of]
  case h_2 absent _ => simp [absent, Judgement.of]
  case h_3 given present =>
    have given : field response "data" ≠ .null := given
    split
    case isTrue failed =>
      have other : ¬ Json.string "fail" = .string "success" := by
        intro same
        exact absurd (Json.string.inj same) (by decide)
      rw [isText_iff.mp failed]
      simp [other, Judgement.of]
    case isFalse =>
      split
      case isTrue success =>
        rw [isText_iff.mp success]
        cases parts : field response "data" with
        | null => exact absurd parts given
        | object data => simp [fields]
        | _ => simp [fields, Judgement.unreadable]
      case isFalse other =>
        have other : field response "status" ≠ .string "success" :=
          fun h => other (isText_iff.mpr h)
        simp [other, Judgement.of]

theorem Named.judge_error (named : Named request response data)
    (stuck : (judgeDate request data).result = .error u) :
    (judge request response).result = .error u := by
  have given : field response "data" ≠ .null := by simp [named.parts]
  have stuck := judgeKey_error_iff.mpr ⟨named.key, stuck⟩
  have stuck := judgeHash_error_iff.mpr ⟨named.hash, stuck⟩
  have stuck := judgeData_error_iff.mpr ⟨named.address, stuck⟩
  exact judge_error_iff_judgeData.mpr ⟨named.status, given, Or.inr ⟨data, named.parts, stuck⟩⟩

theorem Recent.judge_error (recent : Recent request response data)
    (stuck : (judgeConfirmations request data).result = .error u) :
    (judge request response).result = .error u :=
  recent.toNamed.judge_error (judgeDate_error_iff.mpr (Or.inr (Or.inr ⟨recent.date, stuck⟩)))

theorem Counted.judge_error (counted : Counted request response data)
    (stuck : ∀ count, judgeOutputs request data count = .error u) :
    (judge request response).result = .error u := by
  obtain ⟨count, read⟩ := counted.confirmations
  exact counted.toRecent.judge_error
    (judgeConfirmations_error_iff.mpr (Or.inr ⟨count, read, stuck count⟩))

theorem Stumbles.judge_error (stumbles : Stumbles request response u) :
    (judge request response).result = .error u := by
  cases stumbles with
  | data status given broken =>
    exact judge_error_iff_judgeData.mpr ⟨status, given, Or.inl broken⟩
  | date named given broken =>
    exact named.judge_error (judgeDate_error_iff.mpr (Or.inl ⟨given, broken⟩))
  | timestamp named given read broken =>
    exact named.judge_error (judgeDate_error_iff.mpr (Or.inr (Or.inl ⟨given, ⟨_, read⟩, broken⟩)))
  | confirmations recent given broken =>
    exact recent.judge_error (judgeConfirmations_error_iff.mpr (Or.inl ⟨given, broken⟩))
  | outputs counted broken =>
    exact counted.judge_error fun _ => judgeOutputs_error_iff.mpr (Or.inl broken)
  | output counted listed passed broken =>
    refine counted.judge_error fun _ => judgeOutputs_error_iff.mpr (Or.inr ⟨_, listed, ?_⟩)
    exact matchOutputs_error_iff.mpr ⟨_, _, _, rfl, passed, broken⟩

theorem stumbles_of_judge_error (stuck : (judge request response).result = .error u) :
    Stumbles request response u := by
  obtain ⟨status, given, broken | ⟨data, parts, stuck⟩⟩ := judge_error_iff_judgeData.mp stuck
  · exact .data status given broken
  obtain ⟨address, stuck⟩ := judgeData_error_iff.mp stuck
  obtain ⟨hash, stuck⟩ := judgeHash_error_iff.mp stuck
  obtain ⟨key, stuck⟩ := judgeKey_error_iff.mp stuck
  have named : Named request response data := ⟨status, parts, address, hash, key⟩
  rcases judgeDate_error_iff.mp stuck with
    ⟨given, broken⟩ | ⟨given, ⟨date, read⟩, broken⟩ | ⟨date, stuck⟩
  · exact .date named given broken
  · exact .timestamp named given read broken
  have recent : Recent request response data := { named with date := date }
  rcases judgeConfirmations_error_iff.mp stuck with ⟨given, broken⟩ | ⟨count, read, stuck⟩
  · exact .confirmations recent given broken
  have counted : Counted request response data := { recent with confirmations := ⟨count, read⟩ }
  rcases judgeOutputs_error_iff.mp stuck with broken | ⟨items, listed, stuck⟩
  · exact .outputs counted broken
  obtain ⟨before, item, after, rfl, passed, broken⟩ := matchOutputs_error_iff.mp stuck
  exact .output counted listed passed broken

/-- A response cannot be read exactly if its checks come upon a part that cannot. -/
theorem judge_error_iff :
    (judge request response).result = .error u ↔ Stumbles request response u :=
  ⟨stumbles_of_judge_error, Stumbles.judge_error⟩

end Stages

section Infinite

variable {value : Json}

theorem integerOfDouble_infinite {x : Double} (broken : integerOfDouble x = .error .infinite) :
    ∃ negative, x = .infinite negative := by
  cases x with
  | nan => simp [integerOfDouble, Double.truncate?] at broken
  | infinite negative => exact ⟨negative, rfl⟩
  | finite negative mantissa exponent => simp [integerOfDouble, Double.truncate?] at broken

theorem integer_infinite (broken : integer value = .error .infinite) :
    ∃ negative, value = .double (.infinite negative) := by
  cases value with
  | double x =>
    obtain ⟨negative, rfl⟩ := integerOfDouble_infinite broken
    exact ⟨negative, rfl⟩
  | string text =>
    rw [integer] at broken
    split at broken
    · cases broken
    · cases Except.error.inj broken
  | bool _ => cases broken
  | int _ => cases broken
  | _ => cases Except.error.inj broken

theorem fields_ne_infinite (broken : fields value = .error .infinite) : False := by
  cases value with
  | object parts => cases broken
  | _ => cases Except.error.inj broken

theorem outputs_ne_infinite (broken : outputs value = .error .infinite) : False := by
  unfold outputs at broken
  split at broken
  · cases broken
  · split at broken
    case h_4 => cases Except.error.inj broken
    all_goals cases broken

end Infinite

structure AllFinite (request : Request) (response : List (Text × Json)) : Prop where
  date : ∀ negative, request.tradeDate ≠ .infinite negative
  timestamp : ∀ data, field response "data" = .object data →
    ∀ negative, field data "tx_timestamp" ≠ .double (.infinite negative)
  confirmations : ∀ data, field response "data" = .object data →
    ∀ negative, field data "tx_confirmations" ≠ .double (.infinite negative)
  amount : ∀ data items output, field response "data" = .object data →
    field data "outputs" = .array items → .object output ∈ items →
    field output "match" = .bool true →
    ∀ negative, field output "amount" ≠ .double (.infinite negative)

theorem AllFinite.not_stumbles {request : Request} {response : List (Text × Json)}
    (finite : AllFinite request response) : ¬ Stumbles request response .infinite := by
  intro stumbles
  cases stumbles with
  | data status given broken => exact fields_ne_infinite broken
  | date named given broken =>
    obtain ⟨negative, infinite⟩ := integerOfDouble_infinite broken
    exact finite.date negative infinite
  | timestamp named given read broken =>
    obtain ⟨negative, infinite⟩ := integer_infinite broken
    exact finite.timestamp _ named.parts negative infinite
  | confirmations recent given broken =>
    obtain ⟨negative, infinite⟩ := integer_infinite broken
    exact finite.confirmations _ recent.parts negative infinite
  | outputs counted broken => exact outputs_ne_infinite broken
  | @output data before after item counted listed passed broken =>
    cases broken with
    | noFields broken => exact fields_ne_infinite broken
    | @amount output _ ours broken =>
      obtain ⟨negative, infinite⟩ := integer_infinite broken
      have member : .object output ∈ before ++ .object output :: after :=
        List.mem_append_right _ List.mem_cons_self
      have array := outputs_of_object_mem listed member
      exact finite.amount data _ output counted.parts array member ours negative infinite

section Classify

variable {request : Request} {body : Text} {response : List (Text × Json)}

theorem settle_error_iff {result : Except Unreadable Outcome} {fault : Fault} :
    settle result = .error fault ↔
      result = .error .infinite ∧ fault = Unreadable.infinite.toFault := by
  cases result with
  | ok outcome => simp [settle]
  | error u => cases u <;> simp [settle, eq_comm]

theorem classify_error_iff {fault : Fault} :
    (classify request body).result = .error fault ↔
      fault = Unreadable.infinite.toFault ∧ ∃ response, Json.ofText body = .ok (.object response)
        ∧ Stumbles request response .infinite := by
  rw [classify]
  cases Json.ofText body with
  | error fault => simp
  | ok document =>
    cases document with
    | object response => simp [settle_error_iff, judge_error_iff, and_comm]
    | _ => simp

/-- Why a body holds no response that can be read, in the words of the outcome. -/
inductive Invalid (request : Request) (body : Text) : Text → Prop where
  | noDocument {fault : Json.Fault} (broken : Json.ofText body = .error fault) :
      Invalid request body ("Invalid json: " ++ fault.message)
  | noObject {document : Json} (read : Json.ofText body = .ok document)
      (other : ∀ response, document ≠ .object response) : Invalid request body "Empty json"
  | part {response : List (Text × Json)} {u : Unreadable}
      (read : Json.ofText body = .ok (.object response)) (stumbles : Stumbles request response u)
      (finite : u ≠ .infinite) : Invalid request body u.toFault.shown

theorem settle_of_finite {u : Unreadable} (finite : u ≠ .infinite) :
    settle (.error u) = .ok (.error .apiInvalid (some u.toFault.shown)) := by
  cases u with
  | infinite => exact absurd rfl finite
  | _ => rfl

theorem classify_of_invalid {message : Text} (invalid : Invalid request body message) :
    (classify request body).result = .ok (.error .apiInvalid (some message)) := by
  rw [classify]
  cases invalid with
  | noDocument broken => rw [broken]
  | noObject read other =>
    rw [read]
    split
    case h_1 broken => cases broken
    case h_2 response object => exact absurd (Except.ok.inj object) (other response)
    case h_3 => rfl
  | part read stumbles finite =>
    rw [read]
    dsimp only
    rw [stumbles.judge_error, settle_of_finite finite]

end Classify

/-- A classification comes to an outcome, whatever the body holds, unless its checks come upon an
infinite number; so it does where no number is infinite. All else that cannot be read makes the
response invalid. -/
theorem outcome_unless_infinite (request : Request) (body : Text) :
    (∀ fault, (classify request body).result = .error fault ↔
        fault = Unreadable.infinite.toFault ∧ ∃ response, Json.ofText body = .ok (.object response)
          ∧ Stumbles request response .infinite)
      ∧ ((∀ response, Json.ofText body = .ok (.object response) → AllFinite request response) →
          ∃ outcome, (classify request body).result = .ok outcome)
      ∧ ∀ message, Invalid request body message →
          (classify request body).result = .ok (.error .apiInvalid (some message)) := by
  refine ⟨fun fault => classify_error_iff, ?_, fun message => classify_of_invalid⟩
  intro finite
  cases result : (classify request body).result with
  | ok outcome => exact ⟨outcome, rfl⟩
  | error fault =>
    obtain ⟨_, response, read, stumbles⟩ := classify_error_iff.mp result
    exact absurd stumbles (finite response read).not_stumbles

/-- An amount that is too large for a number in floating point is infinite, and no outcome. -/
theorem infinite_amount_is_no_outcome :
    (classify quarterRequest (quarterBody "1e999")).result =
      .error (.plain .overflow (some "cannot convert float infinity to integer")) := by
  have escaped : (match (classify quarterRequest (quarterBody "1e999")).result with
    | .error fault => some fault
    | .ok _ => none) =
      some (.plain .overflow (some "cannot convert float infinity to integer")) := by
    decide +kernel
  cases result : (classify quarterRequest (quarterBody "1e999")).result with
  | error fault =>
    rw [result] at escaped
    exact congrArg Except.error (Option.some.inj escaped)
  | ok outcome => simp [result] at escaped

end TransferProof.Classifier
