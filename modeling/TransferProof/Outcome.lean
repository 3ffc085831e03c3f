import TransferProof.Text

/-!
# Outcomes

One classified answer of the proof service: a tag, and for all but a success a detail that says why.
Only a pending outcome is not final.
-/

namespace TransferProof

inductive Tag where
  /-- Ask again later. -/
  | pending
  /-- The transfer is proved. -/
  | success
  /-- The proof does not fit the trade. -/
  | failed
  /-- The service or the way to it is at fault; the proof may still be good. -/
  | error
  /-- A tag that this checker does not know, as another classifier may give. -/
  | unknown (name : Text)
  deriving DecidableEq, Repr

namespace Tag

def name : Tag → Text
  | .pending => "PENDING"
  | .success => "SUCCESS"
  | .failed => "FAILED"
  | .error => "ERROR"
  | .unknown name => name

def known : List Tag := [.pending, .success, .failed, .error]

def ofName? (name : Text) : Option Tag := known.find? fun tag => tag.name == name

end Tag

inductive DetailKind where
  | txNotFound
  | pendingConfirmations
  | connectionFailure
  | apiFailure
  | apiInvalid
  | txHashInvalid
  | txKeyInvalid
  | addressInvalid
  | noMatchFound
  | amountNotMatching
  | tradeDateNotMatching
  | noResultsTimeout
  deriving DecidableEq, Repr

namespace DetailKind

def name : DetailKind → Text
  | .txNotFound => "TX_NOT_FOUND"
  | .pendingConfirmations => "PENDING_CONFIRMATIONS"
  | .connectionFailure => "CONNECTION_FAILURE"
  | .apiFailure => "API_FAILURE"
  | .apiInvalid => "API_INVALID"
  | .txHashInvalid => "TX_HASH_INVALID"
  | .txKeyInvalid => "TX_KEY_INVALID"
  | .addressInvalid => "ADDRESS_INVALID"
  | .noMatchFound => "NO_MATCH_FOUND"
  | .amountNotMatching => "AMOUNT_NOT_MATCHING"
  | .tradeDateNotMatching => "TRADE_DATE_NOT_MATCHING"
  | .noResultsTimeout => "NO_RESULTS_TIMEOUT"

def all : List DetailKind :=
  [.txNotFound, .pendingConfirmations, .connectionFailure, .apiFailure, .apiInvalid, .txHashInvalid,
   .txKeyInvalid, .addressInvalid, .noMatchFound, .amountNotMatching, .tradeDateNotMatching,
   .noResultsTimeout]

def ofName? (name : Text) : Option DetailKind := all.find? fun kind => kind.name == name

end DetailKind

/-- A kind with what is known beside it: confirmations so far, or a short message. -/
structure Detail where
  kind : DetailKind
  confirmations : Int := 0
  message : Option Text := none
  deriving DecidableEq, Repr

namespace Detail

def ofConfirmations (count : Int) : Detail :=
  { kind := .pendingConfirmations, confirmations := count }

def ofKind (kind : DetailKind) : Detail := { kind := kind }

/-- The kind, with the count of confirmations or the message if it is not empty. -/
def text (detail : Detail) : Text :=
  match detail.kind, detail.message with
  | .pendingConfirmations, _ =>
    detail.kind.name ++ "(" ++ Text.ofInt detail.confirmations ++ ")"
  | _, some (c :: rest) => detail.kind.name ++ ": " ++ (c :: rest)
  | _, _ => detail.kind.name

end Detail

structure Outcome where
  tag : Tag
  detail : Option Detail := none
  deriving DecidableEq, Repr

namespace Outcome

def pending (detail : Detail) : Outcome := { tag := .pending, detail := some detail }

def success : Outcome := { tag := .success }

def failed (kind : DetailKind) : Outcome := { tag := .failed, detail := some (.ofKind kind) }

def error (kind : DetailKind) (message : Option Text) : Outcome :=
  { tag := .error, detail := some { kind := kind, message := message } }

/-- No other outcome follows a terminal one. -/
def isTerminal (outcome : Outcome) : Bool := outcome.tag != .pending

/-- The tag, and the detail after a slash. -/
def text (outcome : Outcome) : Text :=
  match outcome.detail with
  | none => outcome.tag.name
  | some detail => outcome.tag.name ++ "/" ++ detail.text

end Outcome

end TransferProof
