import TransferProof.CallbackThread
import TransferProof.Verification

/-!
# Verifiers that share a pool and a thread

A fleet is any number of verifiers with one pool for their polls and one thread for their callbacks,
neither of which is ever shut down. A verifier is started by callers from outside, who have threads
of their own, or on the callback thread, by a timer or by a handler. Whoever starts it hands in the
poll and is blocked while no slot is free. On the callback thread that keeps everything else from
running, the callbacks that bring the results of other polls included.

The steps are the smallest ones, and nothing is assumed about their order. What the log says is left
out, but for the callbacks that fail.
-/

namespace TransferProof

structure PollTask where
  id : Nat
  verifier : Nat
  deriving DecidableEq, Repr

/-- Something that the callback thread has still to do before the next callback. -/
inductive Chore where
  /-- Carry out what a verifier has decided. -/
  | effect (verifier : Nat) (effect : Effect)
  /-- Call a handler of a verifier. -/
  | tell (verifier : Nat) (notice : Notice)
  /-- Make a move of a handler, on a verifier. -/
  | move (verifier : Nat) (move : Move)
  /-- End the callback in a fault. -/
  | fail (fault : Fault)

/-- What a handler does when it is called: moves on any of the verifiers, in order, and a fault at
the end. -/
structure Response where
  moves : List (Nat × Move) := []
  fault : Option Fault := none

/-- Verifiers, known by their places, with all that they have set going. -/
structure Fleet where
  verifiers : List Verifier
  pool : Pool PollTask
  thread : CallbackThread (Nat × Callback)
  clock : Seconds := 0
  /-- Polls so far. -/
  polls : Nat := 0
  /-- Polls that were handed in, and whose results nobody has asked for yet. -/
  returning : List PollTask := []
  /-- Polls whose results will go to the callback thread. -/
  heard : List PollTask := []
  /-- Results that came before anybody had asked for them. -/
  results : List (PollTask × PollResult) := []
  /-- The poll that the callback thread is handing in. Until it has asked for the result it does
  nothing else. -/
  handing : Option PollTask := none
  chores : List Chore := []
  /-- What the handlers will do, one response for each call; nothing when they are used up. -/
  responses : List Response := []
  /-- What the handlers were told, oldest first. -/
  told : List (Nat × Notice) := []

namespace Fleet

/-- The callback ends in a fault: it is noted, and what was still to be done is not. -/
def fail (s : Fleet) (fault : Fault) : Fleet :=
  { s with chores := [], thread := s.thread.note (s.thread.failure fault) }

def carryOut (s : Fleet) (verifier : Nat) : Effect → Fleet
  | .log _ => s
  | .submit =>
    { s with polls := s.polls + 1, pool := s.pool.submit ⟨s.polls, verifier⟩ }
  | .enqueue callback => { s with thread := s.thread.execute (verifier, callback) }
  | .arm _ =>
    match s.thread.runAfter (verifier, .pollAgain) Verifier.repeatPeriod with
    | .ok thread => { s with thread := thread }
    | .error fault => s.fail fault
  | .cancel timer => { s with thread := s.thread.cancel timer.id }

/-- A decision on the callback thread: what it asks for is the next to be done. -/
def adopt (s : Fleet) (verifier : Nat) (d : Decision) : Fleet :=
  { s with
    verifiers := s.verifiers.set verifier d.verifier
    chores := d.effects.map (.effect verifier) ++ (d.notices.map (.tell verifier) ++ s.chores) }

/-- A decision on the thread of a caller from outside. -/
def obey (s : Fleet) (verifier : Nat) (d : Decision) : Fleet :=
  d.effects.foldl (fun s effect => s.carryOut verifier effect)
    { s with verifiers := s.verifiers.set verifier d.verifier }

def start (s : Fleet) (verifier : Nat) : Fleet :=
  match s.verifiers[verifier]? with
  | some v => s.obey verifier (v.start s.clock)
  | none => s

def terminate (s : Fleet) (verifier : Nat) : Fleet :=
  match s.verifiers[verifier]? with
  | some v => s.obey verifier v.terminate
  | none => s

def move (s : Fleet) (verifier : Nat) (move : Move) : Fleet :=
  match move, s.verifiers[verifier]? with
  | .start, some v => s.adopt verifier (v.start s.clock)
  | .terminate, some v => s.adopt verifier v.terminate
  | .linger seconds, _ => { s with clock := s.clock + seconds }
  | _, none => s

def tell (s : Fleet) (verifier : Nat) (notice : Notice) : Fleet :=
  let response := s.responses.head?.getD {}
  { s with
    responses := s.responses.tail
    told := s.told ++ [(verifier, notice)]
    chores := response.moves.map (fun m => .move m.1 m.2)
      ++ (response.fault.toList.map .fail ++ s.chores) }

def perform (s : Fleet) : Chore → Fleet
  | .effect verifier effect =>
    let handing := match effect with
      | .submit => some ⟨s.polls, verifier⟩
      | _ => s.handing
    { s.carryOut verifier effect with handing := handing }
  | .tell verifier notice => s.tell verifier notice
  | .move verifier move => s.move verifier move
  | .fail fault => s.fail fault

def runNext (s : Fleet) : Fleet :=
  match s.thread.queue with
  | [] => s
  | (verifier, callback) :: _ =>
    let s := { s with thread := s.thread.runNext fun _ t => (t, none) }
    match s.verifiers[verifier]? with
    | some v => s.adopt verifier (v.run s.clock s.thread.timers.length callback)
    | none => s

/-- The callback thread does what is next, unless it is handing in a poll. -/
def proceed (s : Fleet) : Fleet :=
  match s.handing, s.chores with
  | some _, _ => s
  | none, chore :: rest => { s with chores := rest }.perform chore
  | none, [] => s.runNext

def work (s : Fleet) (event : Pool.Event PollTask) : Fleet := { s with pool := s.pool.step event }

/-- The submitter of a poll asks for its slot to be given back, and comes back from the pool. -/
def hook (s : Fleet) (task : PollTask) : Fleet :=
  if task ∈ s.pool.spent ∨ task ∈ s.pool.unhooked then
    { s.work (.hook task) with returning := s.returning ++ [task] }
  else s

/-- The result of a poll goes to the callback thread. -/
def report (s : Fleet) (task : PollTask) (result : PollResult) : Fleet :=
  { s with thread := s.thread.execute (task.verifier, .polled result) }

/-- The submitter of a poll asks for its result, which goes to the callback thread at once if it is
there. -/
def listen (s : Fleet) (task : PollTask) : Fleet :=
  if task ∈ s.returning then
    let s := { s with
      returning := s.returning.erase task
      handing := if s.handing = some task then none else s.handing }
    match s.results.find? fun entry => entry.1 = task with
    | some (_, result) =>
      { s with results := s.results.filter fun entry => entry.1 ≠ task }.report task result
    | none => { s with heard := s.heard ++ [task] }
  else s

def finish (s : Fleet) (task : PollTask) (result : PollResult) : Fleet :=
  if task ∈ s.pool.running then
    let s := s.work (.finish task)
    if task ∈ s.heard then { s with heard := s.heard.erase task }.report task result
    else { s with results := s.results ++ [(task, result)] }
  else s

inductive Event where
  | start (verifier : Nat)
  | terminate (verifier : Nat)
  | tick (time : Seconds)
  | goOff (timer : Nat)
  | bring (timer : Nat)
  | take (task : PollTask)
  | enter (task : PollTask)
  | hook (task : PollTask)
  | listen (task : PollTask)
  | begin
  | finish (task : PollTask) (result : PollResult)
  | proceed

def step (s : Fleet) : Event → Fleet
  | .start verifier => s.start verifier
  | .terminate verifier => s.terminate verifier
  | .tick time => { s with clock := time }
  | .goOff timer => { s with thread := s.thread.goOff timer }
  | .bring timer => { s with thread := s.thread.bring timer }
  | .take task => s.work (.take task)
  | .enter task => s.work (.enter task)
  | .hook task => s.hook task
  | .listen task => s.listen task
  | .begin => s.work .begin
  | .finish task result => s.finish task result
  | .proceed => s.proceed

def run (s : Fleet) (events : List Event) : Fleet := events.foldl step s

def ofRequests (requests : List Request) (pool : Pool PollTask) (clock : Seconds)
    (responses : List Response) : Fleet :=
  { verifiers := requests.map fun request => { request := request }
    pool := pool
    thread := { name := CallbackThread.defaultName }
    clock := clock
    responses := responses }

end Fleet

end TransferProof
