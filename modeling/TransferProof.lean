import TransferProof.Address
import TransferProof.Amount
import TransferProof.Base58
import TransferProof.Calendar
import TransferProof.CallbackThread
import TransferProof.CallbackThread.Errand
import TransferProof.Checker
import TransferProof.Classifier
import TransferProof.CommandLine
import TransferProof.Fault
import TransferProof.Fleet
import TransferProof.Json
import TransferProof.Json.Display
import TransferProof.Json.Printer
import TransferProof.Json.Reader
import TransferProof.Log
import TransferProof.Main
import TransferProof.Network.Authority
import TransferProof.Network.Client
import TransferProof.Network.IpAddress
import TransferProof.Network.Locality
import TransferProof.Network.Query
import TransferProof.Network.Usage
import TransferProof.Number.Decimal
import TransferProof.Number.Double
import TransferProof.Number.Integer
import TransferProof.Number.Numeral
import TransferProof.Number.Rounding
import TransferProof.Number.Seconds
import TransferProof.Number.Shortest
import TransferProof.Outcome
import TransferProof.Poll
import TransferProof.Pool
import TransferProof.Pool.Workload
import TransferProof.Request
import TransferProof.Settings
import TransferProof.Text
import TransferProof.Text.Blank
import TransferProof.Text.Control
import TransferProof.Text.Delimiter
import TransferProof.Text.Digit
import TransferProof.Text.Encoding
import TransferProof.Text.Lower
import TransferProof.Text.Printable
import TransferProof.Text.Quoted
import TransferProof.Text.Ranges
import TransferProof.Text.Similarity
import TransferProof.Text.Utf8
import TransferProof.TradeDate
import TransferProof.Varint
import TransferProof.Verification
import TransferProof.Verification.Rehearsal
import TransferProof.Verifier
import TransferProof.Proofs.Verifier.Ruling
import TransferProof.Proofs.Verification.Steps
import TransferProof.Proofs.Verification.Silence
import TransferProof.Proofs.Verification.Chain
import TransferProof.Proofs.Classifier.Acceptance
import TransferProof.Proofs.Classifier.Table
import TransferProof.Proofs.Classifier.Totality
import TransferProof.Proofs.Verification.Ending
import TransferProof.Proofs.Number.Midpoint
import TransferProof.Proofs.Verifier.Window
import TransferProof.Proofs.Verification.Deadline
import TransferProof.Proofs.Verification.Pace
import TransferProof.Proofs.Verification.Rounds
import TransferProof.Proofs.Classifier.Answers
import TransferProof.Proofs.Verification.Reading
import TransferProof.Proofs.Verification.Timeout
import TransferProof.Proofs.Base58.Bijection
import TransferProof.Proofs.Base58.Grammar
import TransferProof.Proofs.Varint.Groups
import TransferProof.Proofs.Address.Keys
import TransferProof.Proofs.CallbackThread.Arrivals
import TransferProof.Proofs.CallbackThread.Timers
import TransferProof.Proofs.Verification.Tale
import TransferProof.Proofs.Verification.Rehearsed
import TransferProof.Proofs.Verification.Patience
import TransferProof.Proofs.Checker.Verdict
import TransferProof.Proofs.Fleet.Progress
import TransferProof.Proofs.CallbackThread.Tracked
import TransferProof.Proofs.Verification.Documented
import TransferProof.Proofs.Outcome.Wording
import TransferProof.Proofs.Verification.Printed
import TransferProof.Proofs.Network.Routing
import TransferProof.Proofs.Number.Writing
import TransferProof.Proofs.Number.Significant
import TransferProof.Proofs.Amount.Exactness
import TransferProof.Proofs.Classifier.Comparison
import TransferProof.Proofs.Classifier.Growth
import TransferProof.Proofs.Classifier.Shuffled
import TransferProof.Proofs.Poll.Failing
import TransferProof.Proofs.Verification.Failure
import TransferProof.Proofs.Network.Carrying
import TransferProof.Proofs.Network.Boundary
import TransferProof.Proofs.Network.Locality
import TransferProof.Proofs.Verification.Overtaken
import TransferProof.Proofs.Amount.Bounds
import TransferProof.Proofs.Amount.Display
import TransferProof.Proofs.TradeDate.Readings
import TransferProof.Proofs.Checker.Misuse
