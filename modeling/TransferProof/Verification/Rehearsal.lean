import TransferProof.Poll
import TransferProof.Verification

/-!
# Rehearsals

A rehearsal runs a verification in virtual time against a service whose replies are written down
in advance. Time passes only when it is advanced and while the service is asked. The pool works at
once, unless it is paused, and then holds what it is given until that is released. Callbacks run
after every cue, unless that is left to a cue of its own.

Everything that happens is a step of the verification; the rehearsal only chooses their order. Where
the handlers have a habit in place of plans, the rehearsal plans each callback by it.
-/

namespace TransferProof

structure TimedReply where
  reply : Reply
  elapse : Seconds := 0

/-- Seconds by which a reply sets the clock back; most set it forward. -/
def TimedReply.setback (next : TimedReply) : Rat :=
  match next.elapse.toRat? with
  | some elapse => if elapse.num < 0 then -elapse else 0
  | none => 0

/-- Whether handlers that make no moves fail on what they are told, and how. -/
abbrev Habit := Observation → Option Fault

def Notice.observed (time : Seconds) : Notice → Observation
  | .fault message cause => .reported message cause
  | .result outcome => .delivered outcome time

/-- What a handler does that follows a habit, each time it is told something. -/
def Habit.plan (habit : Habit) (time : Seconds) (notices : List Notice) : List Reaction :=
  notices.map fun notice => { fault := habit (notice.observed time) }

namespace Verification

def planned (s : Verification) (onResult onFault : List Reaction) : Verification :=
  { s with onResult := onResult, onFault := onFault }

/-- Has the handlers follow their habit when they are told all this. -/
def following (s : Verification) (habit : Habit) (notices : List Notice) : Verification :=
  s.planned (habit.plan s.clock (notices.filter (!·.isFault)))
    (habit.plan s.clock (notices.filter (·.isFault)))

/-- The oldest callback runs, with handlers that follow a habit. -/
def runNextBy (habit : Habit) (s : Verification) : Verification :=
  match s.queue with
  | [] => s
  | callback :: _ =>
    let notices := (s.verifier.run s.clock s.fresh callback).notices
    (s.following habit notices).runNext.planned s.onResult s.onFault

end Verification

/-- A verification with the service, the pool and the clock that it is rehearsed with. -/
structure Rehearsal where
  verification : Verification
  client : Client
  provider : Option ProxyAnswer
  agent : Text
  /-- The replies to come; the last one is given again and again. -/
  replies : List TimedReply
  /-- What stands in for the classifier: the results to come, the last again and again. -/
  results : Option (List PollResult) := none
  /-- The habit of the handlers, if they have no plans. -/
  habit : Option Habit := none
  /-- Callbacks wait for a cue. -/
  manual : Bool := false
  /-- The pool holds new polls. -/
  paused : Bool := false
  /-- Polls that the pool holds. -/
  held : Nat := 0

inductive Cue where
  | start
  | terminate
  | advance (seconds : Seconds)
  | pause
  | resume
  /-- Let the pool do the oldest polls that it holds, or all. -/
  | release (count : Option Nat)
  | drain
  | closePool
  /-- Only look. -/
  | look

namespace Rehearsal

/-- A rehearsal that has not begun, or why there is no client for the service. -/
def ofRequest (request : Request) (clock : Seconds) (onResult onFault : List Reaction)
    (provider : Option ProxyAnswer) (agent : Text) (replies : List TimedReply) :
    Except Authority.Fault Rehearsal :=
  match Client.forService {} request.serviceAddress with
  | .error fault => .error fault
  | .ok (client, log) =>
    let verification := Verification.ofRequest request clock onResult onFault
    .ok {
      verification := log.foldl (fun s record => s.observe (.logged record)) verification
      client := client
      provider := provider
      agent := agent
      replies := replies }

/-- What remains of a script after its next part was taken; the last part stays. -/
def afterNext {α : Type} : List α → List α
  | [] => []
  | [last] => [last]
  | _ :: rest => rest

def log (s : Verification) (records : List LogRecord) : Verification :=
  records.foldl (fun s record => s.observe (.logged record)) s

/-- Has what came back classified, and ends the poll. -/
def conclude (r : Rehearsal) (poll : Poll) : Rehearsal :=
  let classify : BodyClassifier := match r.results with
    | some (result :: _) => .always result
    | _ => .standard r.verification.verifier.request
  let classification := poll.conclude classify
  { r with
    verification := (log r.verification classification.log).finish classification.result
    results := match poll.received with
      | .ok _ => r.results.map afterNext
      | .error _ => r.results }

def poll (r : Rehearsal) : Rehearsal :=
  let v := r.verification.verifier
  let next : TimedReply := r.replies.head?.getD ⟨.response 200 (some "OK") [], 0⟩
  let poll := Poll.ask v r.client r.provider r.agent fun _ => next.reply
  let s := r.verification.observe (.logged (Poll.opening v))
  let r := match poll.call with
    | some call =>
      { r with
        verification := (s.observe (.called call)).tick (s.clock + next.elapse)
        replies := afterNext r.replies }
    | none => { r with verification := s }
  r.conclude poll

def polls : Nat → Rehearsal → Rehearsal
  | 0, r => r
  | n + 1, r => polls n r.poll

/-- The pool does the polls that it was just given, or holds them. -/
def work (r : Rehearsal) : Rehearsal :=
  if r.paused then { r with held := r.verification.tasks }
  else polls (r.verification.tasks - r.held) r

def movesLeft (s : Verification) : Nat :=
  let moves (plan : List Reaction) : Nat :=
    plan.foldl (fun count reaction => count + reaction.moves.length) 0
  moves s.onResult + moves s.onFault

def runNext (r : Rehearsal) : Rehearsal :=
  { r with verification := match r.habit with
    | none => r.verification.runNext
    | some habit => r.verification.runNextBy habit }

def drainWithin : Nat → Rehearsal → Rehearsal
  | 0, r => r
  | n + 1, r =>
    if r.verification.queue.isEmpty then r
    else drainWithin n r.runNext.work

/-- Runs callbacks until none is left. A callback leads to at most one poll, and so to another
callback, for itself and for each move of a handler; a poll that has ended leads to none for
itself. -/
def drain (r : Rehearsal) : Rehearsal :=
  drainWithin (2 * r.verification.queue.length + movesLeft r.verification) r

/-- Runs callbacks, unless that is left to a cue. -/
def settle (r : Rehearsal) : Rehearsal := if r.manual then r else r.drain

/-- The timer that is due first; of several the oldest. -/
def earliest : List Timer → Option Timer
  | [] => none
  | timer :: rest =>
    match earliest rest with
    | some other => if other.due.lt timer.due then some other else some timer
    | none => some timer

def fireWithin (target : Seconds) : Nat → Rehearsal → Rehearsal
  | 0, r => r
  | n + 1, r =>
    match earliest r.verification.timers with
    | none => r
    | some timer =>
      if timer.due.le target then
        let s := r.verification.tick (r.verification.clock.max timer.due)
        fireWithin target n (settle { r with verification := s.fire timer })
      else r

/-- The most polls that can come one after another in a span of time. Each comes a period after the
one before it, less the seconds by which its reply sets the clock back; once only the last reply is
left, all are equally far apart. Until then each uses up a reply, a result or a move of a handler,
and what the clock is set back meanwhile is added to the span. -/
def pollsWithin (r : Rehearsal) (span : Seconds) : Nat :=
  let moves := movesLeft r.verification
  let used := r.replies.length + (r.results.getD []).length + moves
  let last := (r.replies.getLast?.map TimedReply.setback).getD 0
  let setbacks := r.replies.foldl (fun sum next => sum + next.setback) (2 * moves * last)
  let period := Verifier.repeatPeriod.toRat?.getD 0 - last
  used + ((span.toRat?.getD 0 + setbacks) / period).floor.toNat + 2

/-- The most timers that can fire until a time, one chain of polls for each that is armed and for
each that a move of a handler may lead to. In floating point the time between two polls may be
rounded down, but not to less than half of it. -/
def firings (r : Rehearsal) (target : Seconds) : Nat :=
  match earliest r.verification.timers with
  | none => 0
  | some timer =>
    2 * (r.verification.timers.length + movesLeft r.verification)
      * r.pollsWithin (target - timer.due)

def advance (r : Rehearsal) (seconds : Seconds) : Rehearsal :=
  let target := r.verification.clock + seconds
  let r := fireWithin target (firings r target) r
  { r with verification := r.verification.tick (r.verification.clock.max target) }

def release (r : Rehearsal) (count : Nat) : Rehearsal :=
  let count := min count r.held
  polls count { r with held := r.held - count }

/-- Does what a cue says, before the callbacks that follow. A start may fail. -/
def follow (r : Rehearsal) : Cue → Rehearsal × Option Fault
  | .start =>
    let (s, fault) := r.verification.start
    (work { r with verification := s }, fault)
  | .terminate => ({ r with verification := r.verification.terminate }, none)
  | .advance seconds => (r.advance seconds, none)
  | .pause => ({ r with paused := true }, none)
  | .resume => ({ r with paused := false }, none)
  | .release count => (r.release (count.getD r.held), none)
  | .drain => (r.drain, none)
  | .closePool => ({ r with verification := r.verification.closePool }, none)
  | .look => (r, none)

/-- Does what a cue says, with the callbacks that follow. -/
def act (r : Rehearsal) (cue : Cue) : Rehearsal × Option Fault :=
  let (r, fault) := r.follow cue
  (r.settle, fault)

/-- What has happened since the history had so many parts, oldest first. -/
def since (r : Rehearsal) (length : Nat) : List Observation :=
  (r.verification.history.take (r.verification.history.length - length)).reverse

def dueTimes (r : Rehearsal) : List Seconds :=
  (r.verification.timers.map Timer.due).mergeSort Seconds.le

end Rehearsal

end TransferProof
