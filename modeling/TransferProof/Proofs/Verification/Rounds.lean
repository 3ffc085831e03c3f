import TransferProof.Proofs.Verification.Pace
import TransferProof.Proofs.Verification.Silence

/-!
# Rounds of polls

If calls take no time, timers fire exactly when they are due and the service never has a final
answer, a verifier that is started at the time of its first request goes through 481 rounds and then
gives up. So the bound on the number of polls is reached.
-/

namespace TransferProof.Verification

open Verifier

/-- What happens next if nothing takes time: the callback in the queue runs, or else a poll ends
with the answer to so many polls, or else the time comes at which a timer is due and it fires. -/
def prompt (answer : Nat → Outcome) (s : Verification) : List Event :=
  match s.queue, s.tasks, s.timers with
  | _ :: _, _, _ => [.runNext]
  | [], _ + 1, _ => [.finish (.ok (.outcome (answer s.submissions)))]
  | [], 0, timer :: _ => [.tick timer.due, .fire timer]
  | [], 0, [] => []

def prompts (answer : Nat → Outcome) : Nat → Verification → List Event
  | 0, _ => []
  | turns + 1, s => s.prompt answer ++ prompts answer turns (s.run (s.prompt answer))

/-- The outcomes that were delivered with their times, newest first. -/
def tellings (history : List Observation) : List (Outcome × Seconds) :=
  history.filterMap fun
    | .delivered outcome time => some (outcome, time)
    | _ => none

/-- The `k`-th of the times that are ninety seconds apart. -/
def roundTime (first : Rat) (k : Nat) : Seconds := .exact (first + 90 * k)

/-- How far a verification has come that nothing delays: it has made so many polls and told of so
many of the answers, and this is under way at that time. -/
structure Stage (first : Rat) (answer : Nat → Outcome) (polls told tasks : Nat)
    (queue : List Callback) (timers : List Timer) (now : Rat) (s : Verification) : Prop where
  asked : s.verifier.request.firstRequest = .exact first
  live : s.verifier.terminated = false
  poolOpen : s.poolOpen = true
  still : ∀ reaction ∈ s.onResult, reaction.moves = []
  submissions : s.submissions = polls
  polled : (readings s.history).reverse = (List.range polls).map (roundTime first)
  heard : (tellings s.history).reverse =
    (List.range told).map fun k => (answer (k + 1), roundTime first k)
  tasks : s.tasks = tasks
  queue : s.queue = queue
  timers : s.timers = timers
  clock : s.clock = .exact now

/-- The verifier has ended after so many polls, having told all this, and nothing is under way. -/
structure Over (first : Rat) (polls : Nat) (told : List (Outcome × Seconds)) (s : Verification) :
    Prop where
  ended : s.verifier.terminated = true
  submissions : s.submissions = polls
  polled : (readings s.history).reverse = (List.range polls).map (roundTime first)
  heard : (tellings s.history).reverse = told
  tasks : s.tasks = 0
  queue : s.queue = []
  timers : s.timers = []

/-- The turns lead from one state to another, and each of them is punctual. -/
def Leads (answer : Nat → Outcome) (turns : Nat) (s t : Verification) : Prop :=
  Along Punctual s (prompts answer turns s) ∧ s.run (prompts answer turns s) = t

namespace Leads

variable {answer : Nat → Outcome} {s t u : Verification} {turns more : Nat}

theorem refl (s : Verification) : Leads answer 0 s s :=
  ⟨trivial, rfl⟩

theorem next (punctual : Along Punctual s (s.prompt answer))
    (leads : Leads answer turns (s.run (s.prompt answer)) t) : Leads answer (turns + 1) s t := by
  refine ⟨along_append.mpr ⟨punctual, leads.1⟩, ?_⟩
  rw [prompts, run_append]
  exact leads.2

theorem trans (h : Leads answer turns s t) (k : Leads answer more t u) :
    Leads answer (more + turns) s u := by
  induction turns generalizing s with
  | zero =>
    obtain rfl : s = t := h.2
    exact k
  | succ turns ih =>
    obtain ⟨punctual, reaches⟩ := h
    rw [prompts] at punctual reaches
    rw [run_append] at reaches
    obtain ⟨first, rest⟩ := along_append.mp punctual
    exact next first (ih ⟨rest, reaches⟩)

end Leads

/-- A handler that makes no moves may still fail. -/
theorem tellAll_still {s : Verification} (still : ∀ reaction ∈ s.onResult, reaction.moves = [])
    (outcome : Outcome) : ∃ fault, s.tellAll [.result outcome] = (s.upon (.result outcome), fault) := by
  have nothing : (s.onResult.head?.getD {}).moves = [] := by
    cases plan : s.onResult with
    | nil => rfl
    | cons reaction rest =>
      refine still reaction ?_
      rw [plan]
      exact List.mem_cons_self
  refine ⟨(s.onResult.head?.getD {}).fault, ?_⟩
  rw [tellAll, tell, nothing]
  dsimp only [moveAll]
  cases (s.onResult.head?.getD {}).fault <;> rfl

theorem tellings_noted (s : Verification) (records : List LogRecord) :
    tellings (s.noted records).history = tellings s.history :=
  filterMap_noted _ (fun _ => rfl) s records

theorem tellings_callOff (s : Verification) (held : Option Timer) :
    tellings (s.callOff held).history = tellings s.history :=
  filterMap_callOff s held _ fun _ => rfl

namespace Over

variable {first : Rat} {polls : Nat} {told : List (Outcome × Seconds)} {s : Verification}

theorem noting (h : Over first polls told s) (fault : Option Fault) :
    Over first polls told (Verification.noting (s, fault)) := by
  cases fault with
  | none => exact h
  | some fault => exact { h with }

theorem tell (h : Over first polls told s) (outcome : Outcome) :
    Over first polls (told ++ [(outcome, s.clock)]) (s.upon (.result outcome)) := by
  refine { h with heard := ?_ }
  show ((outcome, s.clock) :: tellings s.history).reverse = _
  rw [List.reverse_cons, h.heard]

end Over

namespace Stage

variable {first : Rat} {answer : Nat → Outcome} {polls told tasks : Nat} {queue : List Callback}
  {timers : List Timer} {now : Rat} {s : Verification}

theorem isOverdue_eq (h : Stage first answer polls told tasks queue timers now s) :
    s.verifier.isOverdue s.clock = decide (first + 43200 < now) := by
  have late := s.verifier.isOverdue_iff s.clock
  rw [h.asked, h.clock] at late
  rw [Bool.eq_iff_iff, h.clock, late, decide_eq_true_iff]
  exact Iff.rfl

theorem noting (h : Stage first answer polls told tasks queue timers now s)
    (fault : Option Fault) :
    Stage first answer polls told tasks queue timers now (Verification.noting (s, fault)) := by
  cases fault with
  | none => exact h
  | some fault => exact { h with }

/-- The only callback waits for ninety seconds more. -/
theorem arm {callback : Callback}
    (h : Stage first answer polls told 0 [callback] [] now s) (outcome : Outcome) (timer : Timer) :
    ∃ t, { s with queue := [] }.adopt
        { verifier := { s.verifier with outcome := some outcome, timer := some timer }
          effects := [.arm timer]
          notices := [.result outcome] } = (t, none)
      ∧ Stage first answer polls told 0 [] [timer] now t ∧ t.verifier.timer = some timer := by
  refine ⟨_, rfl, ?_, rfl⟩
  refine { h with queue := rfl, timers := ?_ }
  show s.timers ++ [timer] = [timer]
  rw [h.timers]
  rfl

/-- The poll that is under way ends. -/
theorem finish (h : Stage first answer polls told 1 [] [] now s) :
    Along Punctual s (s.prompt answer)
      ∧ Stage first answer polls told 0 [.polled (.ok (.outcome (answer polls)))] [] now
        (s.run (s.prompt answer)) := by
  have turn : s.prompt answer = [.finish (.ok (.outcome (answer polls)))] := by
    rw [prompt, h.queue, h.tasks, h.submissions]
  have busy : s.tasks ≠ 0 := by
    rw [h.tasks]
    exact Nat.one_ne_zero
  rw [turn]
  refine ⟨⟨trivial, trivial⟩, ?_⟩
  show Stage _ _ _ _ _ _ _ _ (s.finish _)
  rw [Verification.finish, if_neg busy]
  refine { h with tasks := ?_, queue := ?_ }
  · show s.tasks - 1 = 0
    rw [h.tasks]
  · show s.queue ++ [_] = [_]
    rw [h.queue]
    rfl

/-- The next answer is delivered. -/
theorem tell (h : Stage first answer polls told tasks queue timers (first + 90 * told) s) :
    Stage first answer polls (told + 1) tasks queue timers (first + 90 * told)
      (s.upon (.result (answer (told + 1)))) := by
  refine { h with still := ?_, heard := ?_ }
  · intro reaction member
    exact h.still reaction (List.mem_of_mem_tail member)
  · show ((answer (told + 1), s.clock) :: tellings s.history).reverse = _
    rw [List.reverse_cons, h.heard, h.clock, List.range_succ, List.map_append]
    rfl

/-- A pending outcome is delivered, and a timer armed for the next poll. -/
theorem hear {k : Nat} (h : Stage first answer (k + 1) k 0
      [.polled (.ok (.outcome (answer (k + 1))))] [] (first + 90 * k) s)
    (pending : (answer (k + 1)).tag = .pending) (inTime : k ≤ 480) :
    Along Punctual s (s.prompt answer)
      ∧ ∃ timer, timer.due = roundTime first (k + 1)
        ∧ Stage first answer (k + 1) (k + 1) 0 [] [timer] (first + 90 * k)
          (s.run (s.prompt answer))
        ∧ (s.run (s.prompt answer)).verifier.timer = some timer := by
  have turn : s.prompt answer = [.runNext] := by rw [prompt, h.queue]
  have timely : s.verifier.isOverdue s.clock = false := by
    have inTime : (k : Rat) ≤ 480 := by exact_mod_cast inTime
    rw [h.isOverdue_eq, decide_eq_false_iff_not, not_lt]
    linarith
  have due : s.clock + repeatPeriod = roundTime first (k + 1) := by
    rw [h.clock, roundTime]
    refine congrArg Seconds.exact ?_
    push_cast
    ring
  have ran := runNext_eq h.queue
  rw [run_of_pending h.live pending timely, due] at ran
  obtain ⟨t, adopted, armed, holds⟩ := h.arm (answer (k + 1)) ⟨s.fresh, roundTime first (k + 1)⟩
  obtain ⟨fault, told⟩ := tellAll_still armed.still (answer (k + 1))
  rw [enact_of_adopt adopted, told] at ran
  rw [turn]
  show Along Punctual s [.runNext] ∧ ∃ timer, _ ∧ Stage _ _ _ _ _ _ _ _ s.runNext ∧ _
  refine ⟨⟨?_, trivial⟩, ⟨s.fresh, roundTime first (k + 1)⟩, rfl, ?_, ?_⟩
  · intro head
    rw [h.queue] at head
    cases head
  · rw [ran]
    exact armed.tell.noting fault
  · show s.runNext.verifier.timer = _
    rw [ran, noting_verifier]
    exact holds

/-- The time comes at which the timer is due, and it fires. -/
theorem fire {timer : Timer} {due : Rat}
    (h : Stage first answer polls told 0 [] [timer] now s) (isDue : timer.due = .exact due)
    (later : now ≤ due) :
    Along Punctual s (s.prompt answer)
      ∧ Stage first answer polls told 0 [.pollAgain] [] due (s.run (s.prompt answer))
      ∧ (s.run (s.prompt answer)).verifier = s.verifier := by
  have turn : s.prompt answer = [.tick timer.due, .fire timer] := by
    rw [prompt, h.queue, h.tasks, h.timers]
  have armed : timer ∈ (s.tick timer.due).timers := by
    show timer ∈ s.timers
    rw [h.timers]
    exact List.mem_singleton.mpr rfl
  have fired : s.run [.tick timer.due, .fire timer] =
      { s.tick timer.due with
        timers := (s.tick timer.due).timers.filter (· != timer)
        queue := (s.tick timer.due).queue ++ [.pollAgain] } := by
    show (s.tick timer.due).fire timer = _
    rw [Verification.fire, if_pos armed]
  rw [turn, fired]
  refine ⟨⟨⟨?_, due, isDue⟩, trivial, trivial⟩, ?_, rfl⟩
  · rw [h.clock, isDue, Seconds.le_exact_iff]
    exact later
  · refine { h with queue := ?_, timers := ?_, clock := isDue }
    · show s.queue ++ [.pollAgain] = [.pollAgain]
      rw [h.queue]
      rfl
    · show s.timers.filter (· != timer) = []
      rw [h.timers]
      simp

/-- The next poll runs when it is due. -/
theorem leads_runNext {timer : Timer}
    (h : Stage first answer polls told 0 [.pollAgain] [] now s)
    (holds : s.verifier.timer = some timer) (isDue : timer.due = .exact now) :
    Leads answer 1 s s.runNext := by
  have turn : s.prompt answer = [.runNext] := by rw [prompt, h.queue]
  refine .next ?_ ?_
  · rw [turn]
    refine ⟨?_, trivial⟩
    intro _ other held
    obtain rfl := Option.some.inj (holds.symm.trans held)
    rw [isDue, h.clock, Seconds.le_exact_iff]
  · rw [turn]
    exact .refl _

/-- The next poll is submitted while there is time for it. -/
theorem pollAgain (h : Stage first answer polls told 0 [.pollAgain] [] (first + 90 * polls) s)
    (inTime : polls ≤ 480) :
    Stage first answer (polls + 1) told 1 [] [] (first + 90 * polls) s.runNext := by
  have timely : s.verifier.isOverdue s.clock = false := by
    have inTime : (polls : Rat) ≤ 480 := by exact_mod_cast inTime
    rw [h.isOverdue_eq, decide_eq_false_iff_not, not_lt]
    linarith
  have ran := runNext_eq h.queue
  rw [Verifier.run, start_of_timely h.live timely,
    enact_of_adopt (adopt_submit (s := { s with queue := [] }) h.poolOpen s.verifier)] at ran
  rw [ran]
  show Stage _ _ _ _ _ _ _ _ (observe _ (.submitted s.clock))
  refine { h with submissions := ?_, polled := ?_, tasks := ?_, queue := rfl }
  · exact congrArg (· + 1) h.submissions
  · show (s.clock :: readings s.history).reverse = _
    rw [List.reverse_cons, h.polled, h.clock, List.range_succ, List.map_append]
    rfl
  · exact congrArg (· + 1) h.tasks

/-- When the time is over the verifier is about to give up. -/
theorem lapse (h : Stage first answer polls told 0 [.pollAgain] [] now s)
    (late : first + 43200 < now) :
    Stage first answer polls told 0 [.giveUp] [] now s.runNext := by
  have overdue : s.verifier.isOverdue s.clock = true := by
    rw [h.isOverdue_eq, decide_eq_true_iff]
    exact late
  have ran := runNext_eq h.queue
  rw [Verifier.run, start_of_overdue h.live overdue, enact_of_adopt rfl] at ran
  rw [ran]
  exact { h with queue := rfl }

/-- The verifier gives up, and the handler is going to be told. -/
theorem conclude (h : Stage first answer polls told 0 [.giveUp] [] now s) :
    ∃ t, { s with queue := [] }.adopt s.verifier.giveUp = (t, none)
      ∧ s.verifier.giveUp.notices = [.result overdueOutcome]
      ∧ Over first polls ((List.range told).map fun k => (answer (k + 1), roundTime first k)) t
      ∧ t.clock = s.clock ∧ t.onResult = s.onResult := by
  obtain ⟨records, decided⟩ := giveUp_of_live h.live
  have adopted := adopt_conclude { s with queue := [] } s.verifier overdueOutcome records []
  rw [decided]
  refine ⟨_, adopted, rfl, ⟨?_, ?_, ?_, ?_, ?_, ?_, ?_⟩, ?_, ?_⟩
  · rw [callOff_verifier]
    rfl
  · rw [callOff_submissions]
    exact h.submissions
  · rw [readings_callOff, readings_noted]
    exact h.polled
  · rw [tellings_callOff, tellings_noted]
    exact h.heard
  · rw [callOff_tasks]
    exact h.tasks
  · rw [callOff_queue]
    rfl
  · rw [callOff_timers]
    show s.timers.filter _ = []
    rw [h.timers]
    rfl
  · rw [callOff_clock]
    rfl
  · rw [callOff_onResult]
    rfl

theorem giveUp (h : Stage first answer polls told 0 [.giveUp] [] now s) :
    Along Punctual s (s.prompt answer)
      ∧ Over first polls (((List.range told).map fun k => (answer (k + 1), roundTime first k))
        ++ [(overdueOutcome, .exact now)]) (s.run (s.prompt answer)) := by
  have turn : s.prompt answer = [.runNext] := by rw [prompt, h.queue]
  obtain ⟨t, adopted, notices, done, clock, plan⟩ := h.conclude
  have still : ∀ reaction ∈ t.onResult, reaction.moves = [] := by
    rw [plan]
    exact h.still
  obtain ⟨fault, heard⟩ := tellAll_still still overdueOutcome
  have ran := runNext_eq h.queue
  rw [Verifier.run, enact_of_adopt adopted, notices, heard] at ran
  rw [turn]
  refine ⟨⟨?_, trivial⟩, ?_⟩
  · intro head
    rw [h.queue] at head
    cases head
  · show Over _ _ _ s.runNext
    rw [ran, ← h.clock, ← clock]
    exact (done.tell overdueOutcome).noting fault

end Stage

section Rounds

variable {first : Rat} {answer : Nat → Outcome} {s : Verification} {k : Nat}

/-- One round, from a poll that is under way to the callback that is to start the next one. -/
theorem Stage.round (h : Stage first answer (k + 1) k 1 [] [] (first + 90 * k) s)
    (pending : ∀ k, (answer k).tag = .pending) (inTime : k ≤ 480) :
    ∃ t, Leads answer 4 s t.runNext
      ∧ Stage first answer (k + 1) (k + 1) 0 [.pollAgain] [] (first + 90 * (k + 1 : Nat)) t := by
  obtain ⟨ends, answered⟩ := h.finish
  obtain ⟨hears, timer, isDue, waiting, holds⟩ := answered.hear (pending (k + 1)) inTime
  have later : first + 90 * (k : Rat) ≤ first + 90 * (k + 1 : Nat) := by
    push_cast
    linarith
  obtain ⟨fires, due, same⟩ := waiting.fire isDue later
  exact ⟨_, .next ends (.next hears (.next fires (due.leads_runNext (same ▸ holds) isDue))), due⟩

/-- While there is time one round follows another. -/
theorem Stage.rounds (h : Stage first answer 1 0 1 [] [] (first + 90 * (0 : Nat)) s)
    (pending : ∀ k, (answer k).tag = .pending) (inTime : k ≤ 480) :
    ∃ t, Leads answer (4 * k) s t
      ∧ Stage first answer (k + 1) k 1 [] [] (first + 90 * k) t := by
  induction k with
  | zero => exact ⟨s, .refl s, h⟩
  | succ k ih =>
    obtain ⟨t, leads, asking⟩ := ih (by omega)
    obtain ⟨u, round, due⟩ := asking.round pending (by omega)
    have turns : 4 * (k + 1) = 4 + 4 * k := by omega
    rw [turns]
    exact ⟨_, leads.trans round, due.pollAgain inTime⟩

/-- In the last round there is no time for another poll. -/
theorem Stage.all_rounds (h : Stage first answer 1 0 1 [] [] (first + 90 * (0 : Nat)) s)
    (pending : ∀ k, (answer k).tag = .pending) :
    ∃ t, Leads answer 1925 s t
      ∧ Over first 481 (((List.range 481).map fun k => (answer (k + 1), roundTime first k))
        ++ [(overdueOutcome, .exact (first + 43290))]) t := by
  obtain ⟨t, leads, asking⟩ := h.rounds pending (k := 480) (Nat.le_refl 480)
  obtain ⟨u, last, due⟩ := asking.round pending (Nat.le_refl 480)
  have late : first + 43200 < first + 90 * (480 + 1 : Nat) := by
    push_cast
    linarith
  have time : first + 90 * ((480 + 1 : Nat) : Rat) = first + 43290 := by norm_num
  obtain ⟨punctual, done⟩ := (due.lapse late).giveUp
  rw [time] at done
  exact ⟨_, (leads.trans last).trans (.next punctual (.refl _)), done⟩

/-- Nothing happens any more. -/
theorem Over.leads {polls : Nat} {told : List (Outcome × Seconds)} (h : Over first polls told s)
    (turns : Nat) : Leads answer turns s s := by
  induction turns with
  | zero => exact .refl s
  | succ turns ih =>
    have turn : s.prompt answer = [] := by rw [prompt, h.queue, h.tasks, h.timers]
    refine .next ?_ ?_
    · rw [turn]
      trivial
    · rw [turn]
      exact ih

theorem stage_start (answer : Nat → Outcome) {request : Request} {onResult : List Reaction}
    (onFault : List Reaction) (asked : request.firstRequest = .exact first)
    (still : ∀ reaction ∈ onResult, reaction.moves = []) :
    Stage first answer 1 0 1 [] [] (first + 90 * (0 : Nat))
      (ofRequest request (.exact first) onResult onFault).start.1 := by
  set s := ofRequest request (.exact first) onResult onFault with begun
  have timely : s.verifier.isOverdue s.clock = false := by
    refine Bool.eq_false_iff.mpr fun overdue => ?_
    have late := (s.verifier.isOverdue_iff s.clock).mp overdue
    rw [show s.verifier.request.firstRequest = .exact first from asked] at late
    have late : first + 43200 < first := late
    linarith
  have now : Seconds.exact first = .exact (first + 90 * (0 : Nat)) := by
    push_cast
    rw [mul_zero, add_zero]
  rw [start_eq, start_of_timely rfl timely, adopt_submit (s := s) rfl]
  refine ⟨asked, rfl, rfl, still, rfl, ?_, rfl, rfl, rfl, rfl, now⟩
  exact congrArg (fun time => [time]) now

end Rounds

/-- A verifier that is started once makes at most 481 polls, each at least ninety seconds later than
it would be if all before it were as early as they can be, unless its clock goes back or a timer is
early. If nothing takes any time and every answer is pending it makes that many, tells of each
answer, and gives up ninety seconds after the last one. -/
theorem polls_bounded :
    (∀ {request : Request} {clock : Seconds} {onResult onFault : List Reaction}
        {before after : List Event} {first start : Rat},
      request.firstRequest = .exact first → first ≤ start →
      (∀ reaction ∈ onResult ++ onFault, ∀ move ∈ reaction.moves, move.Unhurried) →
      (∀ event ∈ before, event ≠ .start) →
      ((ofRequest request clock onResult onFault).run before).clock = .exact start →
      Along Punctual ((ofRequest request clock onResult onFault).run before).start.1 after →
      ∀ s, s = (ofRequest request clock onResult onFault).run (before ++ .start :: after) →
        s.submissions ≤ 481
          ∧ (readings s.history).length = s.submissions
          ∧ ∀ (k : Nat) (reading : Seconds), (readings s.history).reverse[k]? = some reading →
              ∃ q : Rat, reading = .exact q ∧ start + 90 * k ≤ q)
      ∧ ∀ {request : Request} {onResult onFault : List Reaction} {first : Rat}
          {answer : Nat → Outcome} {turns : Nat},
        request.firstRequest = .exact first →
        (∀ reaction ∈ onResult, reaction.moves = []) → (∀ k, (answer k).tag = .pending) →
        1925 ≤ turns →
        ∀ begun s, begun = (ofRequest request (.exact first) onResult onFault).start.1 →
          s = begun.run (prompts answer turns begun) →
          Along Punctual begun (prompts answer turns begun)
            ∧ s.submissions = 481
            ∧ (readings s.history).reverse = (List.range 481).map (roundTime first)
            ∧ (tellings s.history).reverse =
              ((List.range 481).map fun k => (answer (k + 1), roundTime first k))
                ++ [(overdueOutcome, .exact (first + 43290))]
            ∧ s.outstanding = 0
            ∧ ∀ later, Silent s (s.run later) := by
  constructor
  · intro request clock onResult onFault before after first start asked notBefore handlers once
      reads punctual s reached
    have paced := paced_run handlers once reads punctual
    have inTime := inTime_run request clock onResult onFault (before ++ .start :: after)
    rw [← reached] at paced inTime
    exact ⟨paced.submissions_le inTime asked notBefore, paced.counted,
      fun k reading => paced.spaced.getElem?⟩
  · intro request onResult onFault first answer turns asked still pending enough begun s start
      reached
    have stage := stage_start answer onFault asked still
    rw [← start] at stage
    obtain ⟨t, leads, done⟩ := stage.all_rounds pending
    obtain ⟨more, rfl⟩ : ∃ more, turns = more + 1925 := ⟨turns - 1925, by omega⟩
    obtain ⟨punctual, ends⟩ := leads.trans (done.leads more)
    obtain rfl : s = t := reached.trans ends
    refine ⟨punctual, done.submissions, done.polled, done.heard, ?_, silent_run done.ended⟩
    rw [outstanding, done.tasks, done.queue, done.timers]
    rfl

def unknownYet (_ : Nat) : Outcome := .pending (.ofKind .txNotFound)

def startedAtOnce : Verification :=
  (ofRequest (small []).verifier.request (.exact 0) [] []).start.1

/-- All the polls are made, and the last one at the last moment. -/
theorem polls_bounded_unknownYet :
    ∃ events, Along Punctual startedAtOnce events
      ∧ (startedAtOnce.run events).submissions = 481
      ∧ ∃ q : Rat, (readings (startedAtOnce.run events).history).reverse[480]? = some (.exact q)
        ∧ 43200 ≤ q := by
  have asked : (small []).verifier.request.firstRequest = .exact 0 := rfl
  have still : ∀ reaction ∈ ([] : List Reaction), reaction.moves = [] := by simp
  have handlers : ∀ reaction ∈ ([] : List Reaction) ++ [], ∀ move ∈ reaction.moves,
      move.Unhurried := by simp
  have once : ∀ event ∈ ([] : List Event), event ≠ .start := by simp
  have pending : ∀ k, (unknownYet k).tag = .pending := fun _ => rfl
  obtain ⟨events, punctual, submissions, polled⟩ : ∃ events, Along Punctual startedAtOnce events
      ∧ (startedAtOnce.run events).submissions = 481
      ∧ (readings (startedAtOnce.run events).history).reverse =
        (List.range 481).map (roundTime 0) := by
    obtain ⟨punctual, submissions, polled, _⟩ :=
      polls_bounded.2 asked still pending (Nat.le_refl 1925) startedAtOnce _ rfl rfl
    exact ⟨_, punctual, submissions, polled⟩
  have bounded := polls_bounded.1 asked (le_refl 0) handlers once rfl punctual
    (startedAtOnce.run events) rfl
  have last : (readings (startedAtOnce.run events).history).reverse[480]? =
      some (roundTime 0 480) := by
    rw [polled, List.getElem?_map, List.getElem?_range (by decide)]
    rfl
  obtain ⟨q, same, late⟩ := bounded.2.2 480 _ last
  refine ⟨events, punctual, submissions, q, last.trans (congrArg some same), ?_⟩
  norm_num at late
  exact late

end TransferProof.Verification
