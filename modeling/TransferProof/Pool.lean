import TransferProof.Log

/-!
# Bounded worker pools

A pool has so many workers and so many slots. A task holds a slot from before it is handed in
until it has ended, so a submitter that finds no free slot is blocked. A slot that is given back
goes to whoever takes it first, a blocked submitter or a new one. A submitter asks for the slot to
be given back at the end of its task only after the task was accepted; where the task has ended by
then, the slot is given back at once. A closed pool still works off what it has accepted; a task
handed in after that is refused and gives its slot back.

The steps are the smallest ones: nothing is assumed about their order.
-/

namespace TransferProof

inductive PoolFault where
  | noWorkers
  | negativeSlots
  deriving DecidableEq, Repr

namespace PoolFault

def message : PoolFault → Text
  | .noWorkers => "max_workers must be greater than 0"
  | .negativeSlots => "semaphore initial value must be >= 0"

end PoolFault

structure Pool (τ : Type) where
  name : Text
  workers : Nat
  /-- All slots, free or not. -/
  capacity : Nat
  /-- Slots that nobody holds. -/
  free : Nat
  /-- How often a slot was to be given back while all were free, which is not done. -/
  surplus : Nat := 0
  closed : Bool := false
  /-- Tasks whose submitters wait for a slot, oldest first. -/
  blocked : List τ := []
  /-- Tasks whose submitters hold a slot and are about to hand them in. -/
  entering : List τ := []
  /-- Accepted tasks that have not ended, and whose submitters have not asked yet that the slot be
  given back at the end. -/
  unhooked : List τ := []
  /-- Tasks that ended before their submitters had asked for that. -/
  spent : List τ := []
  /-- All tasks that were accepted, oldest first. -/
  accepted : List τ := []
  /-- Accepted tasks that no worker has begun, oldest first. -/
  waiting : List τ := []
  /-- All tasks that a worker has begun, oldest first. -/
  begun : List τ := []
  running : List τ := []
  /-- Tasks that ended, oldest first. -/
  finished : List τ := []
  /-- Tasks taken back before a worker began them, oldest first. -/
  cancelled : List τ := []
  /-- Tasks that were refused, oldest first. -/
  refused : List τ := []

namespace Pool

def defaultWorkers : Int := 3

/-- Accepted tasks that may wait for a worker, unless another number is given. -/
def defaultDepth : Int := 5

def defaultName : Text := "pool"

def sharedName : Text := "XmrTransferProofRequester"

def refusal : Fault := .plain .runtime (some "cannot schedule new futures after shutdown")

variable {τ : Type}

/-- An idle pool with a slot for each worker and for each task that may wait. -/
def ofSizes (name : Text) (workers depth : Int) : Except PoolFault (Pool τ) :=
  if workers ≤ 0 then .error .noWorkers
  else if workers + depth < 0 then .error .negativeSlots
  else
    let slots := (workers + depth).toNat
    .ok { name := name, workers := workers.toNat, capacity := slots, free := slots }

/-- Tasks whose submitters are in the middle of handing them in, and hold their slots. -/
def inHand (p : Pool τ) : List τ := p.entering ++ p.spent

def unfinished (p : Pool τ) : List τ := p.waiting ++ p.running

def slots (p : Pool τ) : Nat := p.free + p.unfinished.length + p.inHand.length

/-- How many steps of its own a pool can take before somebody asks more of it. -/
def work (p : Pool τ) : Nat :=
  5 * p.blocked.length + 4 * p.entering.length + 2 * p.waiting.length + p.running.length
    + p.unhooked.length + p.spent.length

/-- A submitter asks for a slot, and is blocked if there is none. -/
def submit (p : Pool τ) (task : τ) : Pool τ :=
  match p.free with
  | 0 => { p with blocked := p.blocked ++ [task] }
  | free + 1 => { p with free := free, entering := p.entering ++ [task] }

/-- A slot is given back, unless all are free. -/
def giveBack (p : Pool τ) : Pool τ :=
  if p.free < p.capacity then { p with free := p.free + 1 }
  else { p with surplus := p.surplus + 1 }

variable [DecidableEq τ]

def take (p : Pool τ) (task : τ) : Pool τ :=
  if task ∈ p.blocked ∧ 0 < p.free then
    { p with
      free := p.free - 1
      blocked := p.blocked.erase task
      entering := p.entering ++ [task] }
  else p

def enter (p : Pool τ) (task : τ) : Pool τ :=
  if task ∈ p.entering then
    let p := { p with entering := p.entering.erase task }
    if p.closed then { p with refused := p.refused ++ [task] }.giveBack
    else { p with
      accepted := p.accepted ++ [task]
      waiting := p.waiting ++ [task]
      unhooked := p.unhooked ++ [task] }
  else p

/-- The submitter of an accepted task asks that the slot be given back when the task ends, and is
done with it. -/
def hook (p : Pool τ) (task : τ) : Pool τ :=
  if task ∈ p.spent then { p with spent := p.spent.erase task }.giveBack
  else { p with unhooked := p.unhooked.erase task }

/-- The slot of a task that has ended is given back, if its submitter has asked for that. -/
def release (p : Pool τ) (task : τ) : Pool τ :=
  if task ∈ p.unhooked then
    { p with unhooked := p.unhooked.erase task, spent := p.spent ++ [task] }
  else p.giveBack

def begin (p : Pool τ) : Pool τ :=
  match p.waiting with
  | [] => p
  | task :: rest =>
    if p.running.length < p.workers then
      { p with waiting := rest, begun := p.begun ++ [task], running := p.running ++ [task] }
    else p

def finish (p : Pool τ) (task : τ) : Pool τ :=
  if task ∈ p.running then
    { p with running := p.running.erase task, finished := p.finished ++ [task] }.release task
  else p

/-- A task is taken back that no worker has begun. -/
def cancel (p : Pool τ) (task : τ) : Pool τ :=
  if task ∈ p.waiting then
    { p with waiting := p.waiting.erase task, cancelled := p.cancelled ++ [task] }.release task
  else p

def close (p : Pool τ) : Pool τ := { p with closed := true }

def closing (p : Pool τ) : LogRecord := .info ("Shutting down " ++ p.name)

/-- The fault that a submitter is told of instead of an acceptance. -/
def fault? (p : Pool τ) (task : τ) : Option Fault := if task ∈ p.refused then some refusal else none

inductive Event (τ : Type) where
  | submit (task : τ)
  | take (task : τ)
  | enter (task : τ)
  | hook (task : τ)
  | begin
  | finish (task : τ)
  | cancel (task : τ)
  | close

def step (p : Pool τ) : Event τ → Pool τ
  | .submit task => p.submit task
  | .take task => p.take task
  | .enter task => p.enter task
  | .hook task => p.hook task
  | .begin => p.begin
  | .finish task => p.finish task
  | .cancel task => p.cancel task
  | .close => p.close

def run (p : Pool τ) (events : List (Event τ)) : Pool τ := events.foldl step p

end Pool

end TransferProof
