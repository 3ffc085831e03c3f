import TransferProof.Address
import TransferProof.Json.Reader
import TransferProof.Json.Display
import TransferProof.Log
import TransferProof.Outcome
import TransferProof.Request
import TransferProof.Text.Lower

/-!
# Classifying a response

Maps the body that the proof service sent to one outcome. The checks stand in a fixed order: status,
recipient, transaction, key, date, confirmations, outputs; the first that does not hold decides.
Values of unexpected kinds make the response unreadable, which is an outcome of its own.
-/

namespace TransferProof.Classifier

/-- How much older than the trade a transaction may be, in seconds, since clocks differ. -/
def dateTolerance : Int := 2 * 60 * 60

inductive Unreadable where
  /-- A value that is no object is asked for a field. -/
  | noFields (kind : Text)
  /-- A value that is no container stands for the list of outputs. -/
  | notIterable (kind : Text)
  /-- A value of this kind stands for a number. -/
  | notNumeric (kind : Text)
  | notANumber
  | infinite
  | badInteger (fault : IntegerFault)
  deriving DecidableEq, Repr

namespace Unreadable

def kind : Unreadable → FaultKind
  | .noFields _ => .attribute
  | .notIterable _ => .type
  | .notNumeric _ => .type
  | .notANumber => .value
  | .infinite => .overflow
  | .badInteger _ => .value

def message : Unreadable → Text
  | .noFields kind => "'" ++ kind ++ "' object has no attribute 'get'"
  | .notIterable kind => "'" ++ kind ++ "' object is not iterable"
  | .notNumeric kind =>
    "int() argument must be a string, a bytes-like object or a real number, not '" ++ kind ++ "'"
  | .notANumber => "cannot convert float NaN to integer"
  | .infinite => "cannot convert float infinity to integer"
  | .badInteger fault => fault.message

def toFault (u : Unreadable) : Fault := .plain u.kind (some u.message)

end Unreadable

def integerOfDouble (x : Double) : Except Unreadable Int :=
  match x.truncate? with
  | some i => .ok i
  | none => .error (if x = .nan then .notANumber else .infinite)

/-- A value as an integer: doubles are cut toward zero, truth values count as one and zero, and
texts are read. -/
def integer : Json → Except Unreadable Int
  | .bool value => .ok (if value then 1 else 0)
  | .int value => .ok value
  | .double value => integerOfDouble value
  | .string value =>
    match value.toInt with
    | .ok i => .ok i
    | .error fault => .error (.badInteger fault)
  | value => .error (.notNumeric value.kindName)

def fields : Json → Except Unreadable (List (Text × Json))
  | .object fields => .ok fields
  | value => .error (.noFields value.kindName)

/-- The outputs to look through. Nothing, zero and empty count as no outputs; the parts of a text
and the names in an object are texts. -/
def outputs (value : Json) : Except Unreadable (List Json) :=
  if value.isEmpty then .ok []
  else match value with
    | .array items => .ok items
    | .object fields => .ok (fields.map fun f => .string f.1)
    | .string text => .ok (text.map fun c => .string [c])
    | value => .error (.notIterable value.kindName)

inductive Match where
  | none
  | otherAmount
  | expectedAmount
  deriving DecidableEq, Repr

/-- Looks for an output that is ours and carries the expected amount; the first one ends the search.
`seen` is what the outputs before have shown. -/
def matchOutputs (amount : Int) (seen : Match) : List Json → Except Unreadable Match
  | [] => .ok seen
  | output :: rest =>
    match fields output with
    | .error e => .error e
    | .ok parts =>
      match Json.field parts "match" with
      | .bool true =>
        match integer (Json.field parts "amount") with
        | .error e => .error e
        | .ok found =>
          if found = amount then .ok .expectedAmount
          else matchOutputs amount .otherAmount rest
      | _ => matchOutputs amount seen rest

/-- What a response shows, or why it cannot be read, and what the log says about it. -/
structure Judgement where
  result : Except Unreadable Outcome
  log : List LogRecord

namespace Judgement

def of (outcome : Outcome) : Judgement := ⟨.ok outcome, []⟩

def unreadable (u : Unreadable) : Judgement := ⟨.error u, []⟩

def missing (name : Text) : Judgement :=
  of (.error .apiInvalid (some ("Missing " ++ name ++ " field")))

end Judgement

def lowerText (value : Json) : Text := Text.lower value.plainText

/-- The last checks: some output is ours, it carries the amount, and it is confirmed often enough.
-/
def judgeOutputs (request : Request) (data : List (Text × Json)) (confirmations : Int) :
    Except Unreadable Outcome :=
  match outputs (Json.field data "outputs") with
  | .error e => .error e
  | .ok items =>
    match matchOutputs request.amount .none items with
    | .error e => .error e
    | .ok .none => .ok (.failed .noMatchFound)
    | .ok .otherAmount => .ok (.failed .amountNotMatching)
    | .ok .expectedAmount =>
      if confirmations < request.requiredConfirmations then
        .ok (.pending (.ofConfirmations confirmations))
      else .ok .success

def judgeConfirmations (request : Request) (data : List (Text × Json)) : Judgement :=
  match Json.field data "tx_confirmations" with
  | .null => .missing "tx_confirmations"
  | value =>
    match integer value with
    | .error e => .unreadable e
    | .ok confirmations =>
      { result := judgeOutputs request data confirmations
        log := [.info ("Confirmations: " ++ Text.ofInt confirmations ++ ", xmr txHash: "
          ++ request.txHash)] }

def judgeDate (request : Request) (data : List (Text × Json)) : Judgement :=
  match Json.field data "tx_timestamp" with
  | .null => .missing "tx_timestamp"
  | value =>
    match integerOfDouble request.tradeDate, integer value with
    | .error e, _ => .unreadable e
    | .ok _, .error e => .unreadable e
    | .ok tradeDate, .ok timestamp =>
      if dateTolerance < tradeDate - timestamp then .of (.failed .tradeDateNotMatching)
      else judgeConfirmations request data

def judgeKey (request : Request) (data : List (Text × Json)) : Judgement :=
  match Json.field data "viewkey" with
  | .null => .missing "viewkey"
  | value =>
    if lowerText value = Text.lower request.txKey then judgeDate request data
    else .of (.failed .txKeyInvalid)

def judgeHash (request : Request) (data : List (Text × Json)) : Judgement :=
  match Json.field data "tx_hash" with
  | .null => .missing "tx_hash"
  | value =>
    if lowerText value = Text.lower request.txHash then judgeKey request data
    else .of (.failed .txHashInvalid)

/-- The checks of the data that a successful answer carries, from the recipient on. -/
def judgeData (request : Request) (data : List (Text × Json)) : Judgement :=
  match Json.field data "address" with
  | .null => .missing "address"
  | value =>
    match Address.echo request.recipientAddress with
    | .error fault =>
      { result := .ok (.failed .addressInvalid)
        log := [.warning ("Cannot decode recipient address for " ++ request.tradeId ++ ": "
          ++ fault.message)] }
    | .ok expected =>
      if lowerText value = expected then judgeHash request data
      else .of (.failed .addressInvalid)

def isText (value : Json) (text : Text) : Bool :=
  match value with
  | .string t => t == text
  | _ => false

/-- The checks of a whole response. A service that fails has not seen the transaction yet, or was
asked with bad data. -/
def judge (request : Request) (response : List (Text × Json)) : Judgement :=
  match Json.field response "data", Json.field response "status" with
  | .null, _ => .of (.error .apiInvalid (some "Missing data / status fields"))
  | _, .null => .of (.error .apiInvalid (some "Missing data / status fields"))
  | data, status =>
    if isText status "fail" then .of (.pending (.ofKind .txNotFound))
    else if isText status "success" then
      match fields data with
      | .error e => .unreadable e
      | .ok data => judgeData request data
    else .of (.error .apiFailure (some "Unhandled status value"))

/-- A classified response, or the fault that classifying it ended in, with the log. -/
structure Classified where
  result : Except Fault Outcome
  log : List LogRecord

/-- An unreadable part makes the response invalid, except for an infinite number, which is a fault
of the classification itself. -/
def settle : Except Unreadable Outcome → Except Fault Outcome
  | .ok outcome => .ok outcome
  | .error .infinite => .error (Unreadable.toFault .infinite)
  | .error u => .ok (.error .apiInvalid (some u.toFault.shown))

def classify (request : Request) (body : Text) : Classified :=
  match Json.ofText body with
  | .error fault =>
    ⟨.ok (.error .apiInvalid (some ("Invalid json: " ++ fault.message))), []⟩
  | .ok (.object response) =>
    let judgement := judge request response
    ⟨settle judgement.result, judgement.log⟩
  | .ok _ => ⟨.ok (.error .apiInvalid (some "Empty json")), []⟩

end TransferProof.Classifier
