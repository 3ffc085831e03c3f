import TransferProof.Fault

/-!
# Log records
-/

namespace TransferProof

/-- How much a log record matters, least first. -/
inductive LogLevel where
  | info
  | warning
  | error
  deriving DecidableEq, Repr

namespace LogLevel

def name : LogLevel → Text
  | .info => "INFO"
  | .warning => "WARNING"
  | .error => "ERROR"

def rank : LogLevel → Nat
  | .info => 0
  | .warning => 1
  | .error => 2

end LogLevel

/-- A line of the log, with the fault that it reports if there is one. -/
structure LogRecord where
  level : LogLevel
  message : Text
  fault : Option Fault
  deriving DecidableEq, Repr

namespace LogRecord

def info (message : Text) : LogRecord := ⟨.info, message, none⟩

def warning (message : Text) : LogRecord := ⟨.warning, message, none⟩

def atLeast (least : LogLevel) (records : List LogRecord) : List LogRecord :=
  records.filter fun r => least.rank ≤ r.level.rank

end LogRecord

end TransferProof
