import TransferProof.Pool

/-!
# Workloads

A workload drives a pool with jobs whose ends are known in advance. A job ends as soon as it has
begun, or waits at a gate that somebody opens. After everything that is done to it the workload
moves until it stands still.
-/

namespace TransferProof

inductive JobResult where
  | value (value : Text)
  | fault (fault : Fault)
  deriving DecidableEq, Repr

structure Job where
  id : Text
  /-- The job waits until its gate is opened. -/
  gated : Bool
  result : JobResult
  deriving DecidableEq, Repr

/-- A pool and the gates that are open. -/
structure Workload where
  pool : Pool Job
  opened : List Text := []

namespace Workload

/-- A job that would end at once if a worker had it. -/
def isFree (w : Workload) (job : Job) : Bool := !job.gated || w.opened.contains job.id

/-- The next thing that happens by itself: the submitter that has waited longest takes a free slot,
one hands in its job or is done with that, a worker begins a job, or a job ends. -/
def next? (w : Workload) : Option (Pool.Event Job) :=
  match w.pool.blocked, w.pool.free with
  | job :: _, _ + 1 => some (.take job)
  | _, _ =>
    match w.pool.entering, w.pool.spent ++ w.pool.unhooked with
    | job :: _, _ => some (.enter job)
    | [], job :: _ => some (.hook job)
    | [], [] =>
      if !w.pool.waiting.isEmpty && w.pool.running.length < w.pool.workers then some .begin
      else (w.pool.running.find? w.isFree).map .finish

def settleWithin : Nat → Workload → Workload
  | 0, w => w
  | n + 1, w =>
    match w.next? with
    | some event => settleWithin n { w with pool := w.pool.step event }
    | none => w

def settle (w : Workload) : Workload := settleWithin w.pool.work w

def submit (w : Workload) (job : Job) : Workload := settle { w with pool := w.pool.submit job }

/-- Somebody opens the gate of a job, now or before it gets there. -/
def release (w : Workload) (id : Text) : Workload := settle { w with opened := id :: w.opened }

def close (w : Workload) : Workload := settle { w with pool := w.pool.close }

end Workload

end TransferProof
