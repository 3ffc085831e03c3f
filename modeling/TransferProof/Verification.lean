import TransferProof.Network.Client
import TransferProof.Pool
import TransferProof.Verifier

/-!
# Verifications

A verification is a verifier with all that it has set going: polls in the worker pool, callbacks
that wait for their thread, timers, and the handlers that hear of results. It moves by steps, each
of which is one of the things that can happen next; nothing is assumed about their order. What
happened is kept as a history, newest first.

Handlers are arbitrary: a plan says for each call what the handler does, and a plan that is used up
does nothing.
-/

namespace TransferProof

/-- What a handler can do to the verification that called it. -/
inductive Move where
  | start
  | terminate
  /-- Take some time. -/
  | linger (seconds : Seconds)
  deriving DecidableEq, Repr

/-- What a handler does when it is called: its moves in order, and a fault at the end. A move that
fails ends it at once. -/
structure Reaction where
  moves : List Move := []
  fault : Option Fault := none
  deriving Repr

inductive Observation where
  | logged (record : LogRecord)
  /-- A poll was handed to the pool, after the clock was read. -/
  | submitted (reading : Seconds)
  /-- A poll asked the service. -/
  | called (call : Call)
  | armed (due : Seconds)
  | cancelled (due : Seconds)
  | reported (message : Text) (cause : Fault)
  | delivered (outcome : Outcome) (time : Seconds)
  /-- A callback ended in a fault. -/
  | callbackFailed (fault : Fault)

def Observation.isFinal : Observation → Bool
  | .delivered outcome _ => outcome.isTerminal
  | _ => false

/-- A verifier with all that it has set going. -/
structure Verification where
  verifier : Verifier
  clock : Seconds := 0
  /-- The pool takes new polls. -/
  poolOpen : Bool := true
  /-- Polls handed to the pool so far. -/
  submissions : Nat := 0
  /-- Polls handed to the pool that have not ended. -/
  tasks : Nat := 0
  /-- Callbacks in the order in which they will run. -/
  queue : List Callback := []
  /-- Timers that have neither fired nor been called off, oldest first. -/
  timers : List Timer := []
  /-- The identity of the next timer. -/
  fresh : Nat := 0
  onResult : List Reaction := []
  onFault : List Reaction := []
  history : List Observation := []

namespace Verification

def observe (s : Verification) (o : Observation) : Verification :=
  { s with history := o :: s.history }

def carryOut (s : Verification) : Effect → Verification × Option Fault
  | .log record => (s.observe (.logged record), none)
  | .submit =>
    if s.poolOpen then
      ({ s with submissions := s.submissions + 1, tasks := s.tasks + 1 }.observe
        (.submitted s.clock), none)
    else (s, some Pool.refusal)
  | .enqueue callback => ({ s with queue := s.queue ++ [callback] }, none)
  | .arm timer =>
    ({ s with timers := s.timers ++ [timer], fresh := s.fresh + 1 }.observe
      (.armed timer.due), none)
  | .cancel timer =>
    ({ s with timers := s.timers.filter (· != timer) }.observe (.cancelled timer.due), none)

/-- Carries out effects up to the first fault. -/
def carryOutAll (s : Verification) : List Effect → Verification × Option Fault
  | [] => (s, none)
  | effect :: rest =>
    match s.carryOut effect with
    | (s, none) => s.carryOutAll rest
    | (s, some fault) => (s, some fault)

/-- Takes the state and the effects of a decision that tells nobody. -/
def adopt (s : Verification) (d : Decision) : Verification × Option Fault :=
  { s with verifier := d.verifier }.carryOutAll d.effects

def move (s : Verification) : Move → Verification × Option Fault
  | .start => s.adopt (s.verifier.start s.clock)
  | .terminate => s.adopt s.verifier.terminate
  | .linger seconds => ({ s with clock := s.clock + seconds }, none)

/-- Moves of a handler up to the first fault, and then the fault `last`. -/
def moveAll (s : Verification) (last : Option Fault) : List Move → Verification × Option Fault
  | [] => (s, last)
  | m :: rest =>
    match s.move m with
    | (s, none) => s.moveAll last rest
    | (s, some fault) => (s, some fault)

def tell (s : Verification) : Notice → Verification × Option Fault
  | .fault message cause =>
    let reaction := s.onFault.head?.getD {}
    { s with onFault := s.onFault.tail }.observe (.reported message cause)
      |>.moveAll reaction.fault reaction.moves
  | .result outcome =>
    let reaction := s.onResult.head?.getD {}
    { s with onResult := s.onResult.tail }.observe (.delivered outcome s.clock)
      |>.moveAll reaction.fault reaction.moves

/-- Calls handlers up to the first fault. -/
def tellAll (s : Verification) : List Notice → Verification × Option Fault
  | [] => (s, none)
  | notice :: rest =>
    match s.tell notice with
    | (s, none) => s.tellAll rest
    | (s, some fault) => (s, some fault)

def enact (s : Verification) (d : Decision) : Verification × Option Fault :=
  match s.adopt d with
  | (s, none) => s.tellAll d.notices
  | (s, some fault) => (s, some fault)

/-- Starts the verifier; a closed pool is a fault for the one who starts it. -/
def start (s : Verification) : Verification × Option Fault := s.enact (s.verifier.start s.clock)

def terminate (s : Verification) : Verification := (s.enact s.verifier.terminate).1

def finish (s : Verification) (result : PollResult) : Verification :=
  if s.tasks = 0 then s
  else { s with tasks := s.tasks - 1, queue := s.queue ++ [.polled result] }

/-- The oldest callback runs; its fault is noted and goes no further. -/
def runNext (s : Verification) : Verification :=
  match s.queue with
  | [] => s
  | callback :: rest =>
    match { s with queue := rest }.enact (s.verifier.run s.clock s.fresh callback) with
    | (s, none) => s
    | (s, some fault) => s.observe (.callbackFailed fault)

/-- A timer fires, unless it has fired before or was called off. -/
def fire (s : Verification) (timer : Timer) : Verification :=
  if timer ∈ s.timers then
    { s with timers := s.timers.filter (· != timer), queue := s.queue ++ [.pollAgain] }
  else s

def tick (s : Verification) (time : Seconds) : Verification := { s with clock := time }

def closePool (s : Verification) : Verification := { s with poolOpen := false }

inductive Event where
  | start
  | terminate
  | finish (result : PollResult)
  | runNext
  | fire (timer : Timer)
  | tick (time : Seconds)
  | closePool

def step (s : Verification) : Event → Verification
  | .start => s.start.1
  | .terminate => s.terminate
  | .finish result => s.finish result
  | .runNext => s.runNext
  | .fire timer => s.fire timer
  | .tick time => s.tick time
  | .closePool => s.closePool

def run (s : Verification) (events : List Event) : Verification := events.foldl step s

def ofRequest (request : Request) (clock : Seconds) (onResult onFault : List Reaction) :
    Verification :=
  { verifier := { request := request }, clock := clock, onResult := onResult, onFault := onFault }

end Verification

end TransferProof
