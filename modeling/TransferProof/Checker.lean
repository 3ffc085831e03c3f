import TransferProof.Amount
import TransferProof.CommandLine
import TransferProof.Settings
import TransferProof.Text.Control
import TransferProof.Text.Encoding
import TransferProof.TradeDate
import TransferProof.Verification.Rehearsal

/-!
# The checker

One run of the program: it reads the command line and the settings, prints what it is going to
check, starts a verification, waits for it second by second and prints each outcome as it comes.
The last outcome is the verdict and decides the exit code. A line that cannot be written is an error
for whoever prints it.

The service is rehearsed: its replies are given beforehand, and time is virtual.
-/

namespace TransferProof

open CommandLine

structure Surroundings where
  environment : Environment := []
  /-- The time in seconds since the epoch. -/
  now : Double
  /-- The same when the clock of the run shows so many seconds. -/
  timeAt : Seconds → Double := fun _ => now
  /-- The name of a trade that is given none. -/
  freshId : Text
  replies : List TimedReply := []
  /-- When the user loses patience, on the clock of the run. -/
  interruptAt : Option Seconds := none

/-- Why a run stops before it has begun, other than by misuse. -/
inductive Crash where
  | settings (fault : IntegerFault)
  | amountTooLarge
  | service (fault : Authority.Fault)
  /-- A line of the heading cannot be written. -/
  | output (surrogates : Text.Surrogates)
  deriving DecidableEq, Repr

/-- The words for a crash; an amount beyond all bounds has none. -/
def Crash.message? : Crash → Option Text
  | .settings fault => some fault.message
  | .amountTooLarge => none
  | .service fault => some fault.message
  | .output surrogates => some surrogates.message

inductive Ending where
  | help
  | misuse (misuse : Misuse)
  | crash (crash : Crash)
  | verdict (outcome : Outcome)
  | interrupted
  /-- No final outcome was printed within the longest time that a verification takes. -/
  | waiting
  deriving DecidableEq, Repr

def Ending.exitCode : Ending → Nat
  | .help => 0
  | .misuse _ => 2
  | .crash _ => 1
  | .verdict outcome =>
    match outcome.tag with
    | .success => 0
    | .failed => 1
    | _ => 2
  | .interrupted => 130
  | .waiting => 1

structure Report where
  ending : Ending
  /-- The least level of the log, once it is set. -/
  logLevel : Option LogLevel := none
  request : Option Request := none
  /-- What is printed. -/
  output : Text := []
  rehearsal : Option Rehearsal := none

namespace Report

/-- What is printed about errors: not for a terminal, and so without control sequences. -/
def complaint (r : Report) : Text :=
  match r.ending with
  | .misuse misuse => Text.surrogatesEscaped (Text.withoutControls misuse.text)
  | _ => []

def calls (r : Report) : List Call :=
  match r.rehearsal with
  | none => []
  | some rehearsal => (rehearsal.since 0).filterMap fun
    | .called call => some call
    | _ => none

def elapsed (r : Report) : Seconds :=
  match r.rehearsal with
  | none => 0
  | some rehearsal => rehearsal.verification.clock

end Report

namespace Checker

/-- A given text that is not empty, or another one. -/
def orElse (given : Option Text) (other : Text) : Text :=
  match given with
  | some (c :: rest) => c :: rest
  | _ => other

def amountEnding : Amount.Fault → Ending
  | .tooLarge => .crash .amountTooLarge
  | fault => .misuse (.unusable (fault.message?.getD []))

/-- The request of an order. The amount is looked at before the date. -/
def requestOf (order : Order) (settings : Settings) (around : Surroundings) :
    Except Ending Request :=
  match Amount.ofText order.amount with
  | .error fault => .error (amountEnding fault)
  | .ok amount =>
    let date := order.tradeDate.getD []
    match TradeDate.ofText around.now date with
    | none => .error (.misuse (.unusable ("Not an epoch or ISO date: " ++ date)))
    | some tradeDate =>
      .ok {
        txHash := order.txHash
        recipientAddress := order.address
        txKey := order.txKey
        serviceAddress := orElse order.service settings.serviceAddress
        tradeId := orElse order.tradeId around.freshId
        amount := amount
        tradeDate := tradeDate
        requiredConfirmations := order.confirmations.getD settings.requiredConfirmations
        firstRequest := 0 }

def icon : Tag → Text
  | .pending => "⏳"
  | .success => "✅"
  | .failed => "🚫"
  | .error => "⚠️"
  | .unknown _ => []

def timeOfDay (now : Double) : Text :=
  let second := ((now.truncate?.getD 0) % 86400).toNat
  let part (n : Nat) : Text := Text.zeroPad 2 (Text.ofNat n)
  part (second / 3600) ++ ":" ++ part (second / 60 % 60) ++ ":" ++ part (second % 60)

def ended (line : Text) : Text := line ++ "\n"

/-- Prints lines up to the first one that cannot be written. Nothing of that is printed. -/
def printLines : List Text → Text × Option Text.Surrogates
  | [] => ([], none)
  | line :: rest =>
    match line.surrogates? with
    | some surrogates => ([], some surrogates)
    | none =>
      let (output, stopped) := printLines rest
      (ended line ++ output, stopped)

def outcomeLine (timeOfDay : Text) (outcome : Outcome) : Text :=
  icon outcome.tag ++ " [" ++ timeOfDay ++ "] " ++ outcome.text

def noteLine (message : Text) : Text := "   note: " ++ message

/-- The line that a handler prints when it is told something. -/
def lineOf (around : Surroundings) : Observation → Option Text
  | .delivered outcome time => some (outcomeLine (timeOfDay (around.timeAt time)) outcome)
  | .reported message _ => some (noteLine message)
  | _ => none

def printed (around : Surroundings) (o : Observation) : Text :=
  (printLines (lineOf around o).toList).1

/-- The handlers fail if they cannot print their line. -/
def habit (around : Surroundings) : Habit := fun o =>
  (printLines (lineOf around o).toList).2.map fun surrogates =>
    .plain (.other "UnicodeEncodeError") (some surrogates.message)

def headingLines (request : Request) : List Text :=
  ["\n================ XMR Tx Proof =================",
    "🧾 Tx hash:         " ++ request.txHash,
    "📮 Address:         " ++ request.recipientAddress,
    "💰 Amount:          " ++ Amount.toText request.amount ++ " XMR",
    "🛰  Service:         " ++ request.serviceAddress,
    "🔢 Confirmations:   " ++ Text.ofInt request.requiredConfirmations,
    "===============================================\n"]

def heading (request : Request) : Text := (headingLines request).flatMap ended

def closing : Ending → Text
  | .verdict outcome => "\n💡 Verdict: " ++ outcome.tag.name ++ "\n"
  | .interrupted => "\n❌ Interrupted\n"
  | _ => []

/-- A final outcome was printed. -/
def isDone (around : Surroundings) (s : Verification) : Bool :=
  s.history.any fun o => o.isFinal && (habit around o).isNone

def isInterrupted (around : Surroundings) (r : Rehearsal) : Bool :=
  match around.interruptAt with
  | some time => time.le r.verification.clock
  | none => false

def verdict (r : Rehearsal) : Ending :=
  match r.verification.verifier.outcome with
  | some outcome => .verdict outcome
  | none => .waiting

/-- Waits for a final outcome, at most `n` seconds. -/
def wait (around : Surroundings) : Nat → Rehearsal → Ending × Rehearsal
  | 0, r => (.waiting, r)
  | n + 1, r =>
    let r := r.drain
    if isDone around r.verification then (verdict r, r)
    else if isInterrupted around r then
      (.interrupted, { r with verification := r.verification.terminate })
    else wait around n (r.act (.advance 1)).1

/-- More seconds than a verification waits. From one poll to the next they are at most 91, since the
period may begin within a second, and there are only so many polls in the time for requests. -/
def patience (r : Rehearsal) : Nat := 91 * r.pollsWithin Verifier.requestPeriod

def attended (around : Surroundings) (r : Rehearsal) : Rehearsal :=
  { r with habit := some (habit around) }

/-- Verifies a request, waits for the end at most `patience` seconds and prints what happens. -/
def verifyWithin (patience : Nat) (request : Request) (around : Surroundings)
    (rehearsal : Rehearsal) : Report :=
  let (ending, rehearsal) := wait around patience ((attended around rehearsal).act .start).1
  { ending := ending
    request := some request
    output := heading request ++ (rehearsal.since 0).flatMap (printed around) ++ closing ending
    rehearsal := some rehearsal }

def verify (request : Request) (around : Surroundings) (rehearsal : Rehearsal) : Report :=
  verifyWithin (patience rehearsal) request around rehearsal

def check (order : Order) (around : Surroundings) : Report :=
  match Settings.load around.environment with
  | .error fault => { ending := .crash (.settings fault) }
  | .ok settings =>
    match requestOf order settings around with
    | .error ending => { ending := ending }
    | .ok request =>
      let proxy := if order.noProxy then none else settings.socksProxy
      match Rehearsal.ofRequest request 0 [] [] (some (.ok proxy)) settings.userAgent
        around.replies with
      | .error fault => { ending := .crash (.service fault), request := some request }
      | .ok rehearsal =>
        match printLines (headingLines request) with
        | (output, some surrogates) =>
          { ending := .crash (.output surrogates), request := some request, output := output }
        | (_, none) => verify request around rehearsal

def run (line : List Text) (around : Surroundings) : Report :=
  match CommandLine.read line with
  | .error misuse => { ending := .misuse misuse }
  | .ok .help => { ending := .help, output := helpText }
  | .ok (.check order) =>
    { check order around with logLevel := some (if order.verbose then .info else .warning) }

end Checker

end TransferProof
