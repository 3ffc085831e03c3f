import TransferProof.Proofs.Classifier.Numbers
import TransferProof.Proofs.Text.Lower

/-!
# The table of outcomes

For a response whose fields hold what they should hold, or nothing, the outcome can be read off a
table: it is that of the first row that applies, and a success if none does. What the outputs show
is asked of all of them there, while the classifier looks through them one by one.
-/

namespace TransferProof.Classifier

open Json

/-- One output: whether it is marked as ours, and its amount. -/
structure Output where
  ours : Bool
  amount : Int

/-- The data of a response; a field that is absent or `null` is left out. -/
structure Data where
  address : Option Text
  hash : Option Text
  key : Option Text
  timestamp : Option Int
  confirmations : Option Int
  outputs : List Output

def orNull {α : Type} (write : α → Json) : Option α → Json
  | none => .null
  | some a => write a

/-- The item is this output. Only `true` marks an output as ours. -/
def Output.IsItem (item : Json) (output : Output) : Prop :=
  ∃ fields, item = .object fields ∧ field fields "amount" = .int output.amount
    ∧ (field fields "match" = .bool true ↔ output.ours = true)

structure Data.HeldBy (fields : List (Text × Json)) (d : Data) : Prop where
  address : field fields "address" = orNull .string d.address
  hash : field fields "tx_hash" = orNull .string d.hash
  key : field fields "viewkey" = orNull .string d.key
  timestamp : field fields "tx_timestamp" = orNull .int d.timestamp
  confirmations : field fields "tx_confirmations" = orNull .int d.confirmations
  outputs : ∃ items : Option (List Json), field fields "outputs" = orNull .array items
    ∧ List.Forall₂ Output.IsItem (items.getD []) d.outputs

def isNull : Json → Bool
  | .null => true
  | _ => false

/-- A row of the table: whether it applies, and the outcome then. -/
structure Row where
  applies : Bool
  outcome : Outcome

def firstRow : List Row → Outcome
  | [] => .success
  | row :: rest => if row.applies then row.outcome else firstRow rest

/-- The two texts differ, and not only by case. -/
def differ (a b : Text) : Bool :=
  Text.lower a != Text.lower b

def missingField (name : Text) : Outcome :=
  .error .apiInvalid (some ("Missing " ++ name ++ " field"))

/-- The rows about a text that has to be the expected one. -/
def textRows (name : Text) (found : Option Text) (expected : Text) (kind : DetailKind) :
    List Row :=
  [⟨found.isNone, missingField name⟩,
   ⟨found.any fun text => differ text expected, .failed kind⟩]

section Rows

variable (request : Request) (date : Rat)

def statusRows (status : Json) (hasData : Bool) : List Row :=
  [⟨!hasData || isNull status, .error .apiInvalid (some "Missing data / status fields")⟩,
   ⟨isText status "fail", .pending (.ofKind .txNotFound)⟩,
   ⟨!isText status "success", .error .apiFailure (some "Unhandled status value")⟩]

def addressRows (d : Data) : List Row :=
  match Address.publicKeys request.recipientAddress with
  | .error _ => [⟨d.address.isNone, missingField "address"⟩, ⟨true, .failed .addressInvalid⟩]
  | .ok keys => textRows "address" d.address (Text.ofBytes keys) .addressInvalid

def dateRows (d : Data) : List Row :=
  [⟨d.timestamp.isNone, missingField "tx_timestamp"⟩,
   ⟨d.timestamp.any fun timestamp => 7200 < truncated date - timestamp,
    .failed .tradeDateNotMatching⟩]

def outputRows (d : Data) : List Row :=
  [⟨d.confirmations.isNone, missingField "tx_confirmations"⟩,
   ⟨!d.outputs.any fun output => output.ours, .failed .noMatchFound⟩,
   ⟨!d.outputs.any fun output => output.ours && output.amount == request.amount,
    .failed .amountNotMatching⟩,
   ⟨d.confirmations.any fun confirmations => confirmations < request.requiredConfirmations,
    .pending (.ofConfirmations (d.confirmations.getD 0))⟩]

def dataRows (d : Data) : List Row :=
  addressRows request d
    ++ (textRows "tx_hash" d.hash request.txHash .txHashInvalid
    ++ (textRows "viewkey" d.key request.txKey .txKeyInvalid
    ++ (dateRows date d
    ++ outputRows request d)))

def verdict (status : Json) (data : Option Data) : Outcome :=
  firstRow (statusRows status data.isSome ++ data.elim [] (dataRows request date))

end Rows

theorem firstRow_textRows (name found expected : Text) (kind : DetailKind) (rest : List Row) :
    firstRow (textRows name (some found) expected kind ++ rest) =
      if Text.lower found = Text.lower expected then firstRow rest else .failed kind := by
  by_cases same : Text.lower found = Text.lower expected
  · have passes : differ found expected = false := by
      rw [differ, same]
      exact bne_self_eq_false _
    simp [textRows, firstRow, passes, same]
  · have applies : differ found expected = true := bne_iff_ne.mpr same
    simp [textRows, firstRow, applies, same]

/-- A check of a text is its rows, if the checks after it are the rows after them. -/
theorem compared_eq {name found expected : Text} {kind : DetailKind} {rest : List Row}
    {judgement : Judgement} (next : judgement.result = .ok (firstRow rest)) :
    (if Text.lower found = Text.lower expected then judgement else .of (.failed kind)).result =
      .ok (firstRow (textRows name (some found) expected kind ++ rest)) := by
  rw [firstRow_textRows]
  by_cases same : Text.lower found = Text.lower expected
  · rw [if_pos same, if_pos same]
    exact next
  · rw [if_neg same, if_neg same]
    rfl

section Outputs

variable {amount : Int}

/-- What a search that has seen something before makes of more outputs. -/
def survey (amount : Int) (seen : Match) (outputs : List Output) : Match :=
  if outputs.any fun output => output.ours && output.amount == amount then .expectedAmount
  else if outputs.any fun output => output.ours then .otherAmount
  else seen

/-- The search for the first output that counts comes to what all the outputs show. -/
theorem matchOutputs_eq {items : List Json} {outputs : List Output}
    (held : List.Forall₂ Output.IsItem items outputs) (seen : Match) :
    matchOutputs amount seen items = .ok (survey amount seen outputs) := by
  induction held generalizing seen with
  | nil => rfl
  | @cons item output items outputs held rest ih =>
    obtain ⟨fields, rfl, amountHeld, marked⟩ := held
    rw [matchOutputs]
    dsimp only [Classifier.fields]
    by_cases ours : output.ours = true
    · rw [marked.mpr ours, amountHeld]
      by_cases same : output.amount = amount
      · simp [integer, same, survey, ours]
      · simp [integer, same, survey, ours, ih]
    · have unmarked : ¬ field fields "match" = .bool true := fun h => ours (marked.mp h)
      have skipped : survey amount seen (output :: outputs) = survey amount seen outputs := by
        simp [survey, ours]
      rw [skipped, ← ih]
      split
      case h_1 match_ => exact absurd match_ unmarked
      case h_2 => rfl

end Outputs

section Stages

variable {request : Request} {date : Rat} {data : List (Text × Json)} {d : Data} {rest : List Row}

theorem outputs_orNull (items : Option (List Json)) :
    outputs (orNull .array items) = .ok (items.getD []) := by
  match items with
  | none => rfl
  | some [] => rfl
  | some (item :: rest) => rfl

theorem judgeConfirmations_eq (held : d.HeldBy data) :
    (judgeConfirmations request data).result = .ok (firstRow (outputRows request d)) := by
  obtain ⟨items, outputsHeld, itemsHeld⟩ := held.outputs
  rw [judgeConfirmations, held.confirmations, outputRows]
  cases d.confirmations with
  | none => rfl
  | some confirmations =>
    show judgeOutputs request data confirmations = _
    rw [judgeOutputs, outputsHeld, outputs_orNull]
    dsimp only
    rw [matchOutputs_eq itemsHeld, survey]
    cases paid : d.outputs.any fun output => output.ours && output.amount == request.amount with
    | true =>
      have ours : (d.outputs.any fun output => output.ours) = true := by
        obtain ⟨output, member, both⟩ := List.any_eq_true.mp paid
        exact List.any_eq_true.mpr ⟨output, member, (Bool.and_eq_true_iff.mp both).1⟩
      by_cases few : confirmations < request.requiredConfirmations
      · simp [firstRow, ours, few]
      · simp [firstRow, ours, few]
    | false =>
      cases ours : d.outputs.any fun output => output.ours with
      | true => simp [firstRow]
      | false => simp [firstRow]

theorem judgeDate_eq (finite : request.tradeDate.toRat? = some date) (held : d.HeldBy data)
    (next : (judgeConfirmations request data).result = .ok (firstRow rest)) :
    (judgeDate request data).result = .ok (firstRow (dateRows date d ++ rest)) := by
  rw [judgeDate, held.timestamp, dateRows]
  cases d.timestamp with
  | none => rfl
  | some timestamp =>
    rw [integerOfDouble_eq finite]
    by_cases old : 7200 < truncated date - timestamp
    · simp [orNull, integer, dateTolerance, old, firstRow, Judgement.of]
    · simpa [orNull, integer, dateTolerance, old, firstRow] using next

theorem judgeKey_eq (held : d.HeldBy data)
    (next : (judgeDate request data).result = .ok (firstRow rest)) :
    (judgeKey request data).result =
      .ok (firstRow (textRows "viewkey" d.key request.txKey .txKeyInvalid ++ rest)) := by
  rw [judgeKey, held.key]
  cases d.key with
  | none => rfl
  | some key => exact compared_eq next

theorem judgeHash_eq (held : d.HeldBy data)
    (next : (judgeKey request data).result = .ok (firstRow rest)) :
    (judgeHash request data).result =
      .ok (firstRow (textRows "tx_hash" d.hash request.txHash .txHashInvalid ++ rest)) := by
  rw [judgeHash, held.hash]
  cases d.hash with
  | none => rfl
  | some hash => exact compared_eq next

theorem judgeData_eq (held : d.HeldBy data)
    (next : (judgeHash request data).result = .ok (firstRow rest)) :
    (judgeData request data).result = .ok (firstRow (addressRows request d ++ rest)) := by
  rw [judgeData, held.address, addressRows, Address.echo]
  cases d.address with
  | none => cases Address.publicKeys request.recipientAddress <;> rfl
  | some address =>
    cases Address.publicKeys request.recipientAddress with
    | error fault => rfl
    | ok keys =>
      have compared : (if Text.lower address = Text.lower (Text.ofBytes keys)
          then judgeHash request data else .of (.failed .addressInvalid)).result =
            .ok (firstRow (textRows "address" (some address) (Text.ofBytes keys) .addressInvalid
              ++ rest)) := compared_eq next
      -- The keys are written in lower case, so only the echo needs to be lowered.
      rw [Text.lower_ofBytes] at compared
      exact compared

theorem judgeData_eq_dataRows (finite : request.tradeDate.toRat? = some date)
    (held : d.HeldBy data) :
    (judgeData request data).result = .ok (firstRow (dataRows request date d)) :=
  judgeData_eq held (judgeHash_eq held (judgeKey_eq held
    (judgeDate_eq finite held (judgeConfirmations_eq held))))

end Stages

structure Holds (response : List (Text × Json)) (status : Json) (data : Option Data) : Prop where
  status : field response "status" = status
  data : ∃ fields : Option (List (Text × Json)), field response "data" = orNull .object fields
    ∧ Option.Rel Data.HeldBy fields data

theorem judge_eq_verdict {request : Request} {date : Rat} {response : List (Text × Json)}
    {status : Json} {data : Option Data} (finite : request.tradeDate.toRat? = some date)
    (holds : Holds response status data) :
    (judge request response).result = .ok (verdict request date status data) := by
  obtain ⟨fields, dataHeld, held⟩ := holds.data
  rw [judge, dataHeld, holds.status, verdict, statusRows]
  cases held with
  | none => rfl
  | @some fields d held =>
    dsimp only [orNull]
    split
    case h_1 impossible => cases impossible
    case h_2 => rfl
    case h_3 status _ _ present _ =>
      have given : isNull status = false := by
        cases status with
        | null => exact absurd rfl present
        | _ => rfl
      by_cases failed : isText status "fail" = true
      · simp [firstRow, given, failed, Judgement.of]
      · have next := judgeData_eq_dataRows finite held
        by_cases success : isText status "success" = true
        · simpa [firstRow, given, failed, success, Classifier.fields] using next
        · simp [firstRow, given, failed, success, Judgement.of]

/-- A response is classified as the table says. -/
theorem classify_eq_verdict {request : Request} {body : Text} {date : Rat}
    {response : List (Text × Json)} {status : Json} {data : Option Data}
    (finite : request.tradeDate.toRat? = some date)
    (reading : Json.ofText body = .ok (.object response)) (holds : Holds response status data) :
    (classify request body).result = .ok (verdict request date status data) := by
  rw [classify, reading]
  dsimp only
  rw [judge_eq_verdict finite holds, settle]

section Stray

/-- A request whose recipient is no address. -/
def strayRequest : Request where
  txHash := "5e66"
  recipientAddress := "?"
  txKey := "f3ce"
  serviceAddress := "node.example"
  tradeId := "a1b2"
  amount := 5
  tradeDate := .zero false
  requiredConfirmations := 10
  firstRequest := 0

def strayBody : Text :=
  List.flatten ["\x7b\"status\": \"success\", ", "\"data\": \x7b\"address\": \"00\", ",
    "\"outputs\": [", "\x7b\"match\": true, ", "\"amount\": 5\x7d", "]\x7d\x7d"]

def strayOutput : List (Text × Json) :=
  [("match", .bool true), ("amount", .int 5)]

def strayFields : List (Text × Json) :=
  [("address", .string "00"), ("outputs", .array [.object strayOutput])]

theorem ofText_strayBody : Json.ofText strayBody =
    .ok (.object [("status", .string "success"), ("data", .object strayFields)]) := by
  decide +kernel

/-- That the recipient is no address is found out first. -/
theorem classify_eq_verdict_stray :
    (classify strayRequest strayBody).result = .ok (.failed .addressInvalid) := by
  have finite : strayRequest.tradeDate.toRat? = some 0 := by decide +kernel
  have outputs : List.Forall₂ Output.IsItem [.object strayOutput] [⟨true, 5⟩] := by
    refine .cons ⟨strayOutput, rfl, rfl, ?_⟩ .nil
    exact ⟨fun _ => rfl, fun _ => rfl⟩
  have held : Data.HeldBy strayFields ⟨some "00", none, none, none, none, [⟨true, 5⟩]⟩ :=
    ⟨rfl, rfl, rfl, rfl, rfl, some [.object strayOutput], rfl, outputs⟩
  have holds : Holds [("status", .string "success"), ("data", .object strayFields)]
      (.string "success") (some ⟨some "00", none, none, none, none, [⟨true, 5⟩]⟩) :=
    ⟨rfl, some strayFields, rfl, .some held⟩
  rw [classify_eq_verdict finite ofText_strayBody holds]
  have row : verdict strayRequest 0 (.string "success")
      (some ⟨some "00", none, none, none, none, [⟨true, 5⟩]⟩) = .failed .addressInvalid := by
    decide +kernel
  rw [row]

end Stray

end TransferProof.Classifier
