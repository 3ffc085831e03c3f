import TransferProof.CallbackThread

/-!
# Errands

An errand is a callback that is written down: a name, what it does to the thread that runs it, and
the fault that it ends in. A timer is found by the name of its errand; of several the newest counts.
-/

namespace TransferProof

mutual

inductive Command where
  | execute (errand : Errand)
  | runAfter (errand : Errand) (delay : Seconds)
  /-- The timer of this name is due; `force` fires it even if it is finished. -/
  | fire (name : Text) (force : Bool)
  | cancel (name : Text)
  | shutdown

inductive Errand where
  | mk (name : Text) (commands : List Command) (fault : Option Fault)

end

instance : Inhabited Command := ⟨.shutdown⟩

instance : Inhabited Errand := ⟨.mk [] [] none⟩

namespace Errand

def name : Errand → Text
  | .mk name _ _ => name

def commands : Errand → List Command
  | .mk _ commands _ => commands

def fault : Errand → Option Fault
  | .mk _ _ fault => fault

/-- A thread that runs errands. -/
abbrev Thread := CallbackThread Errand

/-- The newest timer of a name, by its place. -/
def timer? (t : Thread) (name : Text) : Option Nat :=
  (t.timers.zipIdx.reverse.find? fun (timer, _) => timer.callback.name == name).map Prod.snd

/-- The names of all timers, each once, with its newest timer. -/
def namedTimers (t : Thread) : List (Text × CallbackTimer Errand) :=
  (t.timers.map fun timer => timer.callback.name).eraseDups.filterMap fun name =>
    (timer? t name).bind fun id => (t.timers[id]?).map fun timer => (name, timer)

def obey (t : Thread) : Command → Thread × Option Fault
  | .execute errand => (t.execute errand, none)
  | .runAfter errand delay =>
    match t.runAfter errand delay with
    | .ok t => (t, none)
    | .error fault => (t, some fault)
  | .fire name force =>
    match timer? t name with
    | some id => (if force then t.forceFire id else t.fire id, none)
    | none => (t, none)
  | .cancel name =>
    match timer? t name with
    | some id => (t.cancel id, none)
    | none => (t, none)
  | .shutdown => (t.shutdown, none)

/-- Does things to a thread up to the first fault, and then the fault `last`. -/
def obeyAll (last : Option Fault) (t : Thread) : List Command → Thread × Option Fault
  | [] => (t, last)
  | command :: rest =>
    match obey t command with
    | (t, none) => obeyAll last t rest
    | (t, some fault) => (t, some fault)

def perform (errand : Errand) (t : Thread) : Thread × Option Fault :=
  obeyAll errand.fault t errand.commands

/-- Runs the errands that are enqueued and those that they enqueue, at most `limit`: an errand that
fires its own timer by force never comes to an end. -/
def drain : (limit : Nat) → Thread → Thread
  | 0, t => t
  | limit + 1, t => if t.queue.isEmpty then t else drain limit (t.runNext perform)

end Errand

end TransferProof
