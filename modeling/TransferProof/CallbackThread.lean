import TransferProof.Log
import TransferProof.Number.Seconds

/-!
# Callback threads

All callbacks run on one thread, one after another in the order in which they were enqueued. A
callback that fails is noted in the log and the next one runs. A timer enqueues its callback when it
fires. The thread keeps track of the timers that have not fired, and calls them off when it is shut
down; after that nothing more is enqueued, and what was enqueued before still runs.

A timer that its owner cancels is not told apart by the thread: it stays among those it keeps. A
timer runs beside the thread. It goes off, from which moment on it cannot be called off, and a
little later it brings its callback; `fire` is both at once.
-/

namespace TransferProof

/-- A timer with the callback that it brings, of type `κ`. -/
structure CallbackTimer (κ : Type) where
  callback : κ
  delay : Seconds
  /-- The timer has fired or was called off. -/
  finished : Bool := false
  /-- The timer has gone off and is about to bring its callback. -/
  ringing : Bool := false

structure CallbackThread (κ : Type) where
  name : Text
  shutDown : Bool := false
  /-- Callbacks to run, oldest first. -/
  queue : List κ := []
  /-- Callbacks that have run, oldest first. -/
  ran : List κ := []
  /-- All timers, oldest first; the place of a timer is its identity. -/
  timers : List (CallbackTimer κ) := []
  /-- The timers that the thread will call off when it is shut down. -/
  tracked : List Nat := []
  log : List LogRecord := []

namespace CallbackThread

def defaultName : Text := "UserThread"

variable {κ : Type}

def note (t : CallbackThread κ) (record : LogRecord) : CallbackThread κ :=
  { t with log := t.log ++ [record] }

/-- Enqueues a callback, unless the thread is shut down. -/
def execute (t : CallbackThread κ) (callback : κ) : CallbackThread κ :=
  if t.shutDown then t.note (.warning (t.name ++ " is shut down, dropping callback"))
  else { t with queue := t.queue ++ [callback] }

def closedFault (t : CallbackThread κ) : Fault :=
  .plain .runtime (some (t.name ++ " is shut down"))

/-- Arms a timer, which the thread keeps track of. -/
def runAfter (t : CallbackThread κ) (callback : κ) (delay : Seconds) :
    Except Fault (CallbackThread κ) :=
  if t.shutDown then .error t.closedFault
  else .ok { t with
    timers := t.timers ++ [{ callback := callback, delay := delay }]
    tracked := t.tracked ++ [t.timers.length] }

def retire (timers : List (CallbackTimer κ)) (id : Nat) : List (CallbackTimer κ) :=
  timers.modify id fun timer => { timer with finished := true }

/-- Marks a timer as finished that brings its callback. -/
def silence (timers : List (CallbackTimer κ)) (id : Nat) : List (CallbackTimer κ) :=
  timers.modify id fun timer => { timer with finished := true, ringing := false }

/-- A timer fires whether or not it is finished: its callback is enqueued and the thread no longer
keeps track of it. -/
def forceFire (t : CallbackThread κ) (id : Nat) : CallbackThread κ :=
  match t.timers[id]? with
  | none => t
  | some timer =>
    { t with timers := silence t.timers id, tracked := t.tracked.filter (· != id) }.execute
      timer.callback

/-- A timer fires, unless it is finished or has gone off already. -/
def fire (t : CallbackThread κ) (id : Nat) : CallbackThread κ :=
  match t.timers[id]? with
  | none => t
  | some timer => if timer.finished || timer.ringing then t else t.forceFire id

/-- A timer goes off, unless it is finished. -/
def goOff (t : CallbackThread κ) (id : Nat) : CallbackThread κ :=
  { t with timers := t.timers.modify id fun timer =>
      { timer with ringing := timer.ringing || !timer.finished } }

/-- A timer that has gone off brings its callback, even if it was called off meanwhile. -/
def bring (t : CallbackThread κ) (id : Nat) : CallbackThread κ :=
  match t.timers[id]? with
  | none => t
  | some timer => if timer.ringing then t.forceFire id else t

/-- The owner of a timer calls it off. -/
def cancel (t : CallbackThread κ) (id : Nat) : CallbackThread κ :=
  { t with timers := retire t.timers id }

def shutdown (t : CallbackThread κ) : CallbackThread κ :=
  { t with shutDown := true, timers := t.tracked.foldl retire t.timers, tracked := [] }

def failure (t : CallbackThread κ) (fault : Fault) : LogRecord :=
  ⟨.error, "Error in callback on " ++ t.name, some fault⟩

/-- Runs the oldest callback. `perform` is what a callback does and the fault that it ends in. -/
def runNext (perform : κ → CallbackThread κ → CallbackThread κ × Option Fault)
    (t : CallbackThread κ) : CallbackThread κ :=
  match t.queue with
  | [] => t
  | callback :: rest =>
    match perform callback { t with queue := rest, ran := t.ran ++ [callback] } with
    | (t, none) => t
    | (t, some fault) => t.note (t.failure fault)

/-- What can be done to a thread: by those who use it, by its own callbacks and by timers. -/
inductive Deed (κ : Type) where
  | execute (callback : κ)
  | runAfter (callback : κ) (delay : Seconds)
  | fire (id : Nat)
  | goOff (id : Nat)
  | bring (id : Nat)
  | cancel (id : Nat)
  | shutdown

/-- Does something to a thread. A timer that cannot be armed changes nothing. -/
def doDeed (t : CallbackThread κ) : Deed κ → CallbackThread κ
  | .execute callback => t.execute callback
  | .runAfter callback delay => match t.runAfter callback delay with
    | .ok t => t
    | .error _ => t
  | .fire id => t.fire id
  | .goOff id => t.goOff id
  | .bring id => t.bring id
  | .cancel id => t.cancel id
  | .shutdown => t.shutdown

inductive Event (κ : Type) where
  | deed (deed : Deed κ)
  | runNext

def step (perform : κ → CallbackThread κ → CallbackThread κ × Option Fault)
    (t : CallbackThread κ) : Event κ → CallbackThread κ
  | .deed deed => t.doDeed deed
  | .runNext => t.runNext perform

def run (perform : κ → CallbackThread κ → CallbackThread κ × Option Fault)
    (t : CallbackThread κ) (events : List (Event κ)) : CallbackThread κ :=
  events.foldl (step perform) t

theorem queue_execute (t : CallbackThread κ) (callback : κ) :
    (t.execute callback).queue = if t.shutDown then t.queue else t.queue ++ [callback] := by
  unfold execute
  split <;> rfl

end CallbackThread

end TransferProof
