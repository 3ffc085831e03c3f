import TransferProof.Log
import TransferProof.Outcome
import TransferProof.Request

/-!
# Verifiers

A verifier asks for the proof of one transfer again and again until the answer is final or twelve
hours have passed since the first request. This module holds its decisions alone: from what has
happened and the time they give the verifier's next state, what is to be done and whom to tell.
Who carries that out is said in `Verification`.
-/

namespace TransferProof

/-- What a poll has brought: an outcome, or a value that is none, known by its text. -/
inductive Answer where
  | outcome (outcome : Outcome)
  | other (shown : Text)
  deriving DecidableEq, Repr

namespace Answer

def text : Answer → Text
  | .outcome o => o.text
  | .other shown => shown

end Answer

abbrev PollResult := Except Fault Answer

/-- A timer that brings the next poll, with the time at which it is due. Every timer of a verifier
has an identity of its own. -/
structure Timer where
  id : Nat
  due : Seconds
  deriving DecidableEq, Repr

inductive Callback where
  /-- A poll has ended. -/
  | polled (result : PollResult)
  /-- The last moment for a request has passed. -/
  | giveUp
  /-- A timer has fired, and the next poll is due. -/
  | pollAgain

/-- What a decision lets happen in the verifier's surroundings. -/
inductive Effect where
  | log (record : LogRecord)
  /-- Hand a poll to the worker pool. -/
  | submit
  | enqueue (callback : Callback)
  | arm (timer : Timer)
  | cancel (timer : Timer)

inductive Notice where
  | fault (message : Text) (cause : Fault)
  | result (outcome : Outcome)
  deriving DecidableEq, Repr

def Notice.isFault : Notice → Bool
  | .fault _ _ => true
  | .result _ => false

structure Verifier where
  request : Request
  terminated : Bool := false
  /-- The last outcome, from the service or for want of one. -/
  outcome : Option Outcome := none
  /-- The timer armed last. It is kept after it has fired, too. -/
  timer : Option Timer := none

/-- What a verifier decides: first its state changes, then the effects take place in order, and at
last the handlers are told. -/
structure Decision where
  verifier : Verifier
  effects : List Effect
  notices : List Notice := []

namespace Verifier

/-- Seconds from a pending answer to the next poll. -/
def repeatPeriod : Seconds := 90

def requestHours : Nat := 12

def requestPeriod : Seconds := .exact (requestHours * 3600)

def text (v : Verifier) : Text :=
  "Request at: " ++ v.request.serviceAddress ++ " for trade: " ++ v.request.tradeId

/-- The time for polls is over. The last moment itself still counts. -/
def isOverdue (v : Verifier) (now : Seconds) : Bool :=
  requestPeriod.lt (now - v.request.firstRequest)

def warn (message : Text) : Effect := .log (.warning message)

/-- Asks for a poll, or for the end if it is too late for one. -/
def start (v : Verifier) (now : Seconds) : Decision :=
  if v.terminated then
    { verifier := v, effects := [warn (v.text ++ " is terminated, not requesting again")] }
  else if v.isOverdue now then { verifier := v, effects := [.enqueue .giveUp] }
  else { verifier := v, effects := [.submit] }

/-- The state of a verifier that makes no more polls. -/
def stopped (v : Verifier) : Verifier := { v with terminated := true, timer := none }

def cancellations (v : Verifier) : List Effect := v.timer.toList.map .cancel

def terminate (v : Verifier) : Decision := { verifier := v.stopped, effects := v.cancellations }

/-- Stores an outcome, makes no more polls and tells of it. -/
def conclude (v : Verifier) (outcome : Outcome) (effects : List Effect := [])
    (before : List Notice := []) : Decision :=
  let v := { v with outcome := some outcome }
  { verifier := v.stopped
    effects := effects ++ v.cancellations
    notices := before ++ [.result outcome] }

def overdueOutcome : Outcome := .error .noResultsTimeout none

def giveUp (v : Verifier) : Decision :=
  if v.terminated then { verifier := v, effects := [] }
  else v.conclude overdueOutcome [warn (v.text ++ " got no final result within "
    ++ Text.ofNat requestHours ++ " hours, giving up")]

def fail (v : Verifier) (fault : Fault) : Decision :=
  if v.terminated then
    { verifier := v
      effects := [warn ("Dropping failure " ++ fault.shown ++ ", " ++ v.text ++ " is terminated")] }
  else
    let message := v.text ++ " failed with error " ++ fault.shown
    v.conclude (.error .connectionFailure (some message)) [] [.fault message fault.origin]

/-- Takes an outcome: a final one ends the polls, after a pending one the next is due in a while.
`fresh` is the identity of the timer for that. -/
def accept (v : Verifier) (now : Seconds) (fresh : Nat) (outcome : Outcome) : Decision :=
  let v := { v with outcome := some outcome }
  if v.terminated then
    { verifier := v
      effects := [warn ("Dropping " ++ outcome.text ++ ", " ++ v.text ++ " is terminated")] }
  else match outcome.tag with
    | .pending =>
      if v.isOverdue now then v.giveUp
      else
        let timer : Timer := ⟨fresh, now + repeatPeriod⟩
        { verifier := { v with timer := some timer }
          effects := [.arm timer]
          notices := [.result outcome] }
    | .success => v.conclude outcome [.log (.info (v.text ++ " succeeded"))]
    | .failed => v.conclude outcome
    | .error => v.conclude outcome
    | .unknown _ => { verifier := v, effects := [warn ("Unexpected result " ++ outcome.text)] }

def polled (v : Verifier) (now : Seconds) (fresh : Nat) : PollResult → Decision
  | .error fault => v.fail fault
  | .ok (.outcome outcome) => v.accept now fresh outcome
  | .ok (.other shown) => { verifier := v, effects := [warn ("Unexpected result " ++ shown)] }

def run (v : Verifier) (now : Seconds) (fresh : Nat) : Callback → Decision
  | .polled result => v.polled now fresh result
  | .giveUp => v.giveUp
  | .pollAgain => v.start now

end Verifier

end TransferProof
