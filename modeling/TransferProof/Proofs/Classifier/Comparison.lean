import TransferProof.Proofs.Classifier.Totality

/-!
# Responses that differ in one field

Two responses whose data differ in one field only are judged alike by the checks before the first
one that reads this field. Either such a check decides, and then it decides both responses in the
same way, or both are left to the checks that follow.
-/

namespace TransferProof.Classifier

open Json

/-- Two responses whose data differ in this field at most. -/
structure DifferIn (name : Text) (response other data otherData : List (Text × Json)) : Prop where
  around : ∀ part : Text, part ≠ "data" → field response part = field other part
  parts : field response "data" = .object data
  otherParts : field other "data" = .object otherData
  within : ∀ part : Text, part ≠ name → field data part = field otherData part

/-- Two results are the same, or each is that of the checks it is left to. -/
def Fork (result other rest otherRest : Except Unreadable Outcome) : Prop :=
  result = other ∨ result = rest ∧ other = otherRest

/-- What is said of a transfer that is in order but for the number of its confirmations. -/
def confirmed (required count : Int) : Outcome :=
  if count < required then .pending (.ofConfirmations count) else .success

/-- What is said of a transfer about whose amount the outputs have shown this. -/
def ruled (required count : Int) : Match → Outcome
  | .none => .failed .noMatchFound
  | .otherAmount => .failed .amountNotMatching
  | .expectedAmount => confirmed required count

section Stages

variable {request : Request} {name : Text} {response other data otherData : List (Text × Json)}
  {rest otherRest : Except Unreadable Outcome}

/-- A check of a text that both share forks no earlier than the checks after it. -/
theorem fork_spelled {value : Json} {part text : Text} {outcome : Outcome}
    {next otherNext : Judgement} (fork : Fork next.result otherNext.result rest otherRest) :
    Fork
      (match value with
        | .null => Judgement.missing part
        | value => if lowerText value = text then next else .of outcome).result
      (match value with
        | .null => Judgement.missing part
        | value => if lowerText value = text then otherNext else .of outcome).result
      rest otherRest := by
  cases value with
  | null => exact Or.inl rfl
  | _ =>
    dsimp only
    split
    case isTrue => exact fork
    case isFalse => exact Or.inl rfl

theorem fork_judgeDate (date : field data "tx_timestamp" = field otherData "tx_timestamp") :
    Fork (judgeDate request data).result (judgeDate request otherData).result
      (judgeConfirmations request data).result (judgeConfirmations request otherData).result := by
  rw [judgeDate, judgeDate, date]
  split
  case h_1 => exact Or.inl rfl
  case h_2 =>
    split
    case h_1 => exact Or.inl rfl
    case h_2 => exact Or.inl rfl
    case h_3 =>
      split
      case isTrue => exact Or.inl rfl
      case isFalse => exact Or.inr ⟨rfl, rfl⟩

theorem fork_judgeKey (key : field data "viewkey" = field otherData "viewkey")
    (fork : Fork (judgeDate request data).result (judgeDate request otherData).result
      rest otherRest) :
    Fork (judgeKey request data).result (judgeKey request otherData).result rest otherRest := by
  rw [judgeKey, judgeKey, key]
  exact fork_spelled fork

theorem fork_judgeHash (hash : field data "tx_hash" = field otherData "tx_hash")
    (fork : Fork (judgeKey request data).result (judgeKey request otherData).result
      rest otherRest) :
    Fork (judgeHash request data).result (judgeHash request otherData).result rest otherRest := by
  rw [judgeHash, judgeHash, hash]
  exact fork_spelled fork

theorem fork_judgeData (address : field data "address" = field otherData "address")
    (fork : Fork (judgeHash request data).result (judgeHash request otherData).result
      rest otherRest) :
    Fork (judgeData request data).result (judgeData request otherData).result rest otherRest := by
  rw [judgeData, judgeData, address]
  cases Address.echo request.recipientAddress with
  | error fault =>
    left
    split <;> rfl
  | ok expected => exact fork_spelled fork

/-- Both are judged alike, or both get as far as to the number of confirmations. -/
theorem DifferIn.fork (differ : DifferIn name response other data otherData)
    (late : name ∉ (["address", "tx_hash", "viewkey", "tx_timestamp"] : List Text)) :
    Fork (judge request response).result (judge request other).result
      (judgeConfirmations request data).result (judgeConfirmations request otherData).result := by
  have shared (part : Text)
      (early : part ∈ (["address", "tx_hash", "viewkey", "tx_timestamp"] : List Text)) :
      field data part = field otherData part := by
    refine differ.within part ?_
    rintro rfl
    exact late early
  have fork : Fork (judgeDate request data).result (judgeDate request otherData).result
      (judgeConfirmations request data).result (judgeConfirmations request otherData).result :=
    fork_judgeDate (shared "tx_timestamp" (by decide))
  have fork := fork_judgeKey (shared "viewkey" (by decide)) fork
  have fork := fork_judgeHash (shared "tx_hash" (by decide)) fork
  have fork := fork_judgeData (shared "address" (by decide)) fork
  rw [judge, judge, differ.parts, differ.otherParts, differ.around "status" (by decide)]
  cases field other "status" with
  | null => exact Or.inl rfl
  | _ =>
    dsimp only [fields]
    split
    case isTrue => exact Or.inl rfl
    case isFalse =>
      split
      case isTrue => exact fork
      case isFalse => exact Or.inl rfl

/-- A count that can be read leaves the rest to the checks after it. -/
theorem judgeConfirmations_of_count {count : Int}
    (read : integer (field data "tx_confirmations") = .ok count) :
    (judgeConfirmations request data).result = judgeOutputs request data count := by
  rw [judgeConfirmations]
  split
  case h_1 absent =>
    rw [absent] at read
    cases read
  case h_2 => rw [read]

/-- The last checks are a search through the outputs, and what it comes to is said at the end. -/
theorem judgeOutputs_of_listed {count : Int} {items : List Json}
    (listed : outputs (field data "outputs") = .ok items) :
    judgeOutputs request data count =
      (matchOutputs request.amount .none items).map
        (ruled request.requiredConfirmations count) := by
  rw [judgeOutputs, listed]
  dsimp only
  cases matchOutputs request.amount .none items with
  | error u => rfl
  | ok seen =>
    cases seen with
    | expectedAmount =>
      dsimp only [Except.map, ruled, confirmed]
      split <;> rfl
    | _ => rfl

/-- What a body is classified as is what its response is judged to be. -/
theorem classify_of_read {body : Text} (read : Json.ofText body = .ok (.object response)) :
    (classify request body).result = settle (judge request response).result := by
  rw [classify, read]

end Stages

section Quarter

/-- All fields but one have the values that they had. -/
theorem field_of_ne (before : List (Text × Json)) {after : List (Text × Json)} {name part : Text}
    {value other : Json} (different : part ≠ name) :
    field (before ++ (name, value) :: after) part =
      field (before ++ (name, other) :: after) part := by
  have skipped : (name == part) = false := beq_eq_false_iff_ne.mpr different.symm
  simp [field, field?, List.find?_append, skipped]

def quarterData (confirmations outputs : Json) : List (Text × Json) :=
  [("address", .string (Text.ofBytes ((List.range 64).map UInt8.ofNat))),
    ("tx_hash", .string "5e665addf6d7c630"), ("viewkey", .string "f3ce66c9d395e5e4"),
    ("tx_timestamp", .int 1600000000), ("tx_confirmations", confirmations), ("outputs", outputs)]

def quarterResponse (confirmations outputs : Json) : List (Text × Json) :=
  [("status", .string "success"), ("data", .object (quarterData confirmations outputs))]

def quarterText (confirmations outputs : Text) : Text :=
  List.flatten ["\x7b\"status\": \"success\", ", "\"data\": \x7b\"address\": \"",
    Text.ofBytes ((List.range 64).map UInt8.ofNat), "\", \"tx_hash\": \"", "5e665addf6d7c630",
    "\", \"viewkey\": \"", "f3ce66c9d395e5e4", "\", \"tx_timestamp\": ", "1600000000",
    ", \"tx_confirmations\": ", confirmations, ", \"outputs\": ", outputs, "\x7d\x7d"]

def quarterOutput : List (Text × Json) :=
  [("match", .bool true), ("amount", .int 1250000000000)]

def quarterOutputText : Text :=
  List.flatten ["\x7b\"match\": true, ", "\"amount\": 1250000000000\x7d"]

theorem differIn_confirmations (count other outputs : Json) :
    DifferIn "tx_confirmations" (quarterResponse count outputs) (quarterResponse other outputs)
      (quarterData count outputs) (quarterData other outputs) where
  around _ different := field_of_ne [("status", _)] different
  parts := rfl
  otherParts := rfl
  within _ different :=
    field_of_ne [("address", _), ("tx_hash", _), ("viewkey", _), ("tx_timestamp", _)] different

theorem differIn_outputs (count items others : Json) :
    DifferIn "outputs" (quarterResponse count items) (quarterResponse count others)
      (quarterData count items) (quarterData count others) where
  around _ different := field_of_ne [("status", _)] different
  parts := rfl
  otherParts := rfl
  within _ different :=
    field_of_ne [("address", _), ("tx_hash", _), ("viewkey", _), ("tx_timestamp", _),
      ("tx_confirmations", _)] different

end Quarter

end TransferProof.Classifier
