import Mathlib.Tactic.Linarith
import TransferProof.Proofs.Verification.Pace
import TransferProof.Proofs.Verification.Rehearsed

/-!
# The patience of a rehearsal

A rehearsed verification that is left alone comes to its end if its replies take exact times and
none sets the clock back. After every second that passes it rests: no poll and no callback is under
way. While it has not ended it waits for its timer then, and this is due within ninety seconds after
the time for requests, so that the clock cannot go on for ever.
-/

namespace TransferProof

def TimedReply.Forward (next : TimedReply) : Prop :=
  ∃ elapse : Rat, next.elapse = .exact elapse ∧ 0 ≤ elapse

namespace Verification

open Verifier

structure Underway (tasks : Nat) (queue : List Callback) (timers : List Timer) (s : Verification) :
    Prop where
  tasks : s.tasks = tasks
  queue : s.queue = queue
  timers : s.timers = timers

section Cases

variable {request : Request} {habit : Habit} {s : Verification}

/-- A verifier that is started when nothing is under way polls, or gives up. -/
theorem underway_opening {d : Decision} (idle : Idle s) (live : s.verifier.terminated = false)
    (opening : Opening s.verifier s.clock d) :
    Underway 1 [] [] (s.adopt d).1 ∨ Underway 0 [.giveUp] [] (s.adopt d).1 := by
  cases opening with
  | refuse ended record => exact absurd (live.symm.trans ended) Bool.false_ne_true
  | tooLate _ overdue =>
    refine .inr ⟨idle.tasks, ?_, idle.timers⟩
    exact congrArg (· ++ [Callback.giveUp]) idle.queue
  | poll _ timely =>
    rw [adopt_submit idle.poolOpen]
    exact .inl ⟨congrArg (· + 1) idle.tasks, idle.queue, idle.timers⟩

theorem Underway.noting {tasks : Nat} {queue : List Callback} {timers : List Timer}
    (underway : Underway tasks queue timers s) (fault : Option Fault) :
    Underway tasks queue timers (Verification.noting (s, fault)) := by
  cases fault <;> exact ⟨underway.tasks, underway.queue, underway.timers⟩

theorem Underway.hear {tasks : Nat} {queue : List Callback} {timers : List Timer}
    (underway : Underway tasks queue timers s) (notices : List Notice) :
    Underway tasks queue timers (s.hear notices) := by
  rw [hear_eq]
  exact ⟨underway.tasks, underway.queue, underway.timers⟩

theorem clock_runNextBy (habit : Habit) (s : Verification) :
    (s.runNextBy habit).clock = s.clock := by
  cases queued : s.queue with
  | nil => rw [runNextBy, queued]
  | cons callback rest =>
    obtain ⟨d, fault, -, ran⟩ := runNextBy_eq habit queued
    have kept : (({ s with queue := rest }.adopt d).1.hear
        (habit.heard s.clock d.notices)).clock = s.clock := by
      rw [hear_eq]
      exact adopt_clock _ _
    rw [ran]
    cases fault <;> exact kept

/-- What is under way after a callback: what a start makes of it, or a timer at most. -/
theorem underway_runNextBy (course : Course request habit s) {callback : Callback}
    (queued : s.queue = [callback]) :
    (callback = .pollAgain
        ∧ (Underway 1 [] [] (s.runNextBy habit) ∨ Underway 0 [.giveUp] [] (s.runNextBy habit)))
      ∨ Underway 0 [] [] (s.runNextBy habit)
      ∨ ∃ id, Underway 0 [] [⟨id, s.clock + repeatPeriod⟩] (s.runNextBy habit)
        ∧ s.verifier.isOverdue s.clock = false := by
  have idle := course.chain.pop queued
  have live := course.live_of_queued queued
  obtain ⟨d, fault, ruling, ran⟩ := runNextBy_eq habit queued
  rw [ran]
  cases ruling with
  | reopen opening =>
    refine .inl ⟨rfl, ?_⟩
    exact (underway_opening idle live opening).imp (fun polls => (polls.hear _).noting _)
      fun late => (late.hear _).noting _
  | drop ended records => exact absurd (live.symm.trans ended) Bool.false_ne_true
  | @ignore result _ strange records =>
    have known := course.alive.known (.polled result) (by rw [queued]; exact List.mem_cons_self)
    rw [Callback.isKnown, strange.not_isKnown] at known
    cases known
  | wait _ tag timely next =>
    refine .inr (.inr ⟨s.fresh, ?_, timely⟩)
    refine Underway.noting (Underway.hear ?_ _) _
    refine ⟨idle.tasks, idle.queue, ?_⟩
    rw [← next]
    exact congrArg (· ++ [_]) idle.timers
  | @conclude _ outcome before _ ending records =>
    have concluded : Idle ({ s with queue := [] }.adopt
        (s.verifier.conclude outcome (records.map .log) before)).1 :=
      idle_conclude idle outcome records before
    refine .inr (.inl (Underway.noting (Underway.hear ?_ _) _))
    exact ⟨concluded.tasks, concluded.queue, concluded.timers⟩

end Cases

end Verification

namespace Rehearsal

open Verification Verifier

/-- The pool works at once, callbacks run at once, no reply sets the clock back, and the clock shows
an exact time. -/
structure Smooth (now : Rat) (r : Rehearsal) : Prop where
  unpaused : r.paused = false
  held : r.held = 0
  automatic : r.manual = false
  forward : ∀ next ∈ r.replies, next.Forward
  clock : r.verification.clock = .exact now

theorem Smooth.congr {now later : Rat} {r : Rehearsal} (smooth : Smooth now r) {s : Verification}
    (clock : s.clock = .exact later) : Smooth later { r with verification := s } :=
  ⟨smooth.unpaused, smooth.held, smooth.automatic, smooth.forward, clock⟩

/-- Besides, the verification keeps to its course. -/
structure Prompt (request : Request) (habit : Habit) (now : Rat) (r : Rehearsal) : Prop
    extends Smooth now r where
  faithful : Faithful request habit r

section Polls

variable {request : Request} {habit : Habit} {now : Rat} {r : Rehearsal}

theorem log_eq (s : Verification) (records : List LogRecord) :
    Rehearsal.log s records = s.noted records := by
  induction records generalizing s with
  | nil => rfl
  | cons record rest ih =>
    have step : (s.observe (.logged record)).noted rest = s.noted (record :: rest) := by
      simp [noted, observe]
    exact (ih _).trans step

theorem forward_afterNext {replies : List TimedReply} (forward : ∀ next ∈ replies, next.Forward) :
    ∀ next ∈ afterNext replies, next.Forward := by
  intro next member
  match replies with
  | [] => cases member
  | [last] => exact forward next member
  | first :: second :: rest => exact forward next (List.mem_cons_of_mem _ member)

/-- When no reply is left there is still one that takes no time. -/
theorem forward_next {replies : List TimedReply} (forward : ∀ next ∈ replies, next.Forward) :
    (replies.head?.getD (⟨.response 200 (some "OK") [], 0⟩ : TimedReply)).Forward := by
  cases replies with
  | nil => exact ⟨0, rfl, le_refl 0⟩
  | cons next rest => exact forward next List.mem_cons_self

theorem underway_finish {s : Verification} (underway : Underway 1 [] [] s) (result : PollResult) :
    Underway 0 [.polled result] [] (s.finish result) ∧ (s.finish result).clock = s.clock := by
  rw [finish, if_neg (by rw [underway.tasks]; decide)]
  refine ⟨⟨?_, ?_, underway.timers⟩, rfl⟩
  · exact congrArg (· - 1) underway.tasks
  · exact congrArg (· ++ [Callback.polled result]) underway.queue

/-- What came back is put into the queue. -/
theorem Prompt.conclude (prompt : Prompt request habit now r)
    (underway : Underway 1 [] [] r.verification) {poll : Poll}
    (faithful : Faithful request habit (r.conclude poll)) :
    Prompt request habit now (r.conclude poll)
      ∧ ∃ result, Underway 0 [.polled result] [] (r.conclude poll).verification := by
  have noted (records : List LogRecord) : Underway 1 [] [] (Rehearsal.log r.verification records)
      ∧ (Rehearsal.log r.verification records).clock = r.verification.clock := by
    rw [log_eq]
    exact ⟨⟨underway.tasks, underway.queue, underway.timers⟩, rfl⟩
  rw [Rehearsal.conclude] at faithful ⊢
  refine ⟨⟨⟨prompt.unpaused, prompt.held, prompt.automatic, prompt.forward, ?_⟩, faithful⟩, ?_⟩
  · exact ((underway_finish (noted _).1 _).2.trans (noted _).2).trans prompt.clock
  · exact ⟨_, (underway_finish (noted _).1 _).1⟩

/-- The one poll in the pool ends at once, and the clock does not go back. -/
theorem Prompt.poll (prompt : Prompt request habit now r)
    (underway : Underway 1 [] [] r.verification) :
    ∃ later, now ≤ later ∧ Prompt request habit later r.poll
      ∧ ∃ result, Underway 0 [.polled result] [] r.poll.verification := by
  have faithful := prompt.faithful.poll
  have opened := prompt.faithful.course.observe
    (o := .logged (Poll.opening r.verification.verifier)) rfl
  obtain ⟨elapse, takes, forward⟩ := forward_next prompt.forward
  rw [Rehearsal.poll] at faithful ⊢
  suffices asked : ∃ later, now ≤ later ∧ Prompt request habit later _ ∧ Underway 1 [] [] _ by
    obtain ⟨later, kept, prompt, underway⟩ := asked
    exact ⟨later, kept, prompt.conclude underway faithful⟩
  split
  · refine ⟨now + elapse, by linarith,
      ⟨⟨prompt.unpaused, prompt.held, prompt.automatic, ?_, ?_⟩, ?_⟩,
      ⟨underway.tasks, underway.queue, underway.timers⟩⟩
    · exact forward_afterNext prompt.forward
    · show r.verification.clock + _ = _
      rw [prompt.clock, takes, Seconds.exact_add]
    · exact ⟨prompt.faithful.classifier, prompt.faithful.follows, (opened.observe rfl).tick _⟩
  · refine ⟨now, le_refl now, ⟨prompt.toSmooth.congr prompt.clock, ?_⟩,
      ⟨underway.tasks, underway.queue, underway.timers⟩⟩
    exact ⟨prompt.faithful.classifier, prompt.faithful.follows, opened⟩

end Polls

/-- No poll and no callback is under way, and the next poll is due in ninety seconds if there is
one. The last one was in time. -/
structure Settled (request : Request) (habit : Habit) (now : Rat) (r : Rehearsal) : Prop where
  prompt : Prompt request habit now r
  tasks : r.verification.tasks = 0
  queue : r.verification.queue = []
  timers : ∀ timer ∈ r.verification.timers, timer.due = .exact (now + 90) ∧ now ≤ 43200

section Rounds

variable {request : Request} {habit : Habit} {now : Rat} {r : Rehearsal}

theorem work_eq (prompt : Prompt request habit now r) :
    r.work = Rehearsal.polls r.verification.tasks r := by
  rw [work, prompt.unpaused, prompt.held]
  rfl

/-- What a start has set going comes to a callback that does not start it again. -/
theorem Prompt.open (prompt : Prompt request habit now r)
    (opened : Underway 1 [] [] r.verification ∨ Underway 0 [.giveUp] [] r.verification) :
    ∃ later callback, now ≤ later ∧ Prompt request habit later r.work ∧ callback ≠ .pollAgain
      ∧ Underway 0 [callback] [] r.work.verification := by
  rw [work_eq prompt]
  rcases opened with polls | late
  · rw [polls.tasks]
    obtain ⟨later, kept, prompt, result, underway⟩ := prompt.poll polls
    exact ⟨later, _, kept, prompt, Callback.noConfusion, underway⟩
  · rw [late.tasks]
    exact ⟨now, _, le_refl now, prompt, Callback.noConfusion, late⟩

theorem runNext_verification (faithful : Faithful request habit r) :
    r.runNext.verification = r.verification.runNextBy habit := by
  rw [Rehearsal.runNext, faithful.follows]

theorem Prompt.runNext (prompt : Prompt request habit now r) :
    Prompt request habit now r.runNext := by
  refine ⟨prompt.toSmooth.congr ?_, prompt.faithful.runNext⟩
  rw [prompt.faithful.follows]
  exact (clock_runNextBy habit _).trans prompt.clock

/-- A callback that runs settles things, unless it starts the verifier again. -/
theorem Prompt.round (first : request.firstRequest = .exact 0) (prompt : Prompt request habit now r)
    {callback : Callback} (underway : Underway 0 [callback] [] r.verification) :
    Settled request habit now r.runNext.work
      ∨ callback = .pollAgain ∧ ∃ later next, now ≤ later
        ∧ Prompt request habit later r.runNext.work
        ∧ next ≠ .pollAgain ∧ Underway 0 [next] []
          r.runNext.work.verification := by
  have ran := prompt.runNext
  have goesOn := underway_runNextBy prompt.faithful.course underway.queue
  rw [← runNext_verification prompt.faithful] at goesOn
  rcases goesOn with
    ⟨again, opened⟩ | settled | ⟨id, waits, timely⟩
  · obtain ⟨later, next, kept, prompt, other, underway⟩ := ran.open opened
    exact .inr ⟨again, later, next, kept, prompt, other, underway⟩
  · rw [work_eq ran, settled.tasks]
    refine .inl ⟨ran, settled.tasks, settled.queue, fun timer member => ?_⟩
    rw [polls, settled.timers] at member
    cases member
  · rw [work_eq ran, waits.tasks]
    refine .inl ⟨ran, waits.tasks, waits.queue, fun timer member => ?_⟩
    rw [polls, waits.timers] at member
    obtain rfl := List.mem_singleton.mp member
    have inTime := not_late_of_timely timely
    rw [prompt.faithful.course.asked, first, prompt.clock, Late, not_lt] at inTime
    rw [prompt.clock]
    exact ⟨rfl, by linarith⟩

theorem drainWithin_of_nil (nothing : r.verification.queue = []) (n : Nat) :
    Rehearsal.drainWithin n r = r := by
  cases n with
  | zero => rfl
  | succ n =>
    rw [Rehearsal.drainWithin, nothing]
    rfl

theorem settle_of_nil (nothing : r.verification.queue = []) : r.settle = r := by
  rw [Rehearsal.settle]
  split
  · rfl
  · exact drainWithin_of_nil nothing _

theorem drainWithin_succ {callback : Callback} (underway : Underway 0 [callback] [] r.verification)
    (n : Nat) : Rehearsal.drainWithin (n + 1) r =
      Rehearsal.drainWithin n r.runNext.work := by
  rw [Rehearsal.drainWithin, underway.queue]
  rfl

/-- Where nothing is under way nothing but the clock changes in a while. -/
theorem act_advance_of_idle (idle : Idle r.verification) (seconds : Seconds) :
    ∃ time, (r.act (.advance seconds)).1 =
      { r with verification := r.verification.tick time } := by
  have nothing (target : Seconds) (n : Nat) : fireWithin target n r = r := by
    cases n with
    | zero => rfl
    | succ n =>
      rw [fireWithin, idle.timers]
      rfl
  refine ⟨r.verification.clock.max (r.verification.clock + seconds), ?_⟩
  show (r.advance seconds).settle = _
  rw [Rehearsal.advance, nothing]
  exact settle_of_nil idle.queue

/-- Two callbacks are enough: one that starts the verifier again and one that hears of the poll. -/
theorem Prompt.drainWithin (first : request.firstRequest = .exact 0)
    (prompt : Prompt request habit now r) {callback : Callback}
    (underway : Underway 0 [callback] [] r.verification) (n : Nat) :
    ∃ later, now ≤ later ∧ Settled request habit later (Rehearsal.drainWithin (n + 2) r) := by
  rw [drainWithin_succ underway]
  rcases prompt.round first underway with
    settled | ⟨-, later, next, kept, prompt, other, underway⟩
  · exact ⟨now, le_refl now, by rwa [drainWithin_of_nil settled.queue]⟩
  · rw [drainWithin_succ underway]
    rcases prompt.round first underway with settled | ⟨again, -⟩
    · exact ⟨later, kept, by rwa [drainWithin_of_nil settled.queue]⟩
    · exact absurd again other

theorem Prompt.settle (first : request.firstRequest = .exact 0)
    (prompt : Prompt request habit now r) {callback : Callback}
    (underway : Underway 0 [callback] [] r.verification) :
    ∃ later, now ≤ later ∧ Settled request habit later r.settle := by
  rw [Rehearsal.settle, prompt.automatic, if_neg Bool.false_ne_true, drain, underway.queue,
    List.length_singleton, Nat.mul_one, Nat.add_comm]
  exact prompt.drainWithin first underway _

end Rounds

/-- A second in which nothing was under way has passed. While the verifier has not ended it waits
for a timer, and this is due soon after the time for requests. -/
structure Resting (request : Request) (habit : Habit) (now : Rat) (r : Rehearsal) : Prop where
  prompt : Prompt request habit now r
  tasks : r.verification.tasks = 0
  queue : r.verification.queue = []
  timers : ∀ timer ∈ r.verification.timers,
    ∃ due : Rat, timer.due = .exact due ∧ now < due ∧ due ≤ 43290

section Seconds

variable {request : Request} {habit : Habit} {now : Rat} {r : Rehearsal}

theorem Settled.resting (settled : Settled request habit now r) : Resting request habit now r where
  prompt := settled.prompt
  tasks := settled.tasks
  queue := settled.queue
  timers := by
    intro timer member
    obtain ⟨due, inTime⟩ := settled.timers timer member
    exact ⟨now + 90, due, by linarith, by linarith⟩

/-- Until the end there is a timer to wait for. -/
theorem Resting.lt_of_live (resting : Resting request habit now r)
    (live : r.verification.verifier.terminated = false) :
    ∃ timer due, r.verification.timers = [timer] ∧ timer.due = .exact due ∧ now < due
      ∧ due ≤ 43290 := by
  have one := resting.prompt.faithful.course.alive.live live
  rw [outstanding, resting.tasks, resting.queue] at one
  obtain ⟨timer, alone⟩ := List.length_eq_one_iff.mp ((Nat.zero_add _).symm.trans one)
  obtain ⟨due, isDue, soon, bound⟩ := resting.timers timer (by rw [alone]; exact List.mem_cons_self)
  exact ⟨timer, due, alone, isDue, soon, bound⟩

/-- A rehearsal that is started settles. -/
theorem settled_start (first : request.firstRequest = .exact 0) (smooth : Smooth now r)
    (classifier : r.results = none) (follows : r.habit = some habit)
    (unstarted : Unstarted request r.verification) :
    ∃ later, now ≤ later ∧ Settled request habit later (r.act .start).1 := by
  have opening := opening_start r.verification.verifier r.verification.clock
  have clock : r.verification.start.1.clock = .exact now := by
    rw [start_eq, adopt_clock, smooth.clock]
  have started : Prompt request habit now { r with verification := r.verification.start.1 } :=
    ⟨smooth.congr clock, classifier, follows, unstarted.start habit⟩
  have opened := underway_opening unstarted.idle unstarted.live opening
  rw [← start_eq] at opened
  obtain ⟨middle, callback, kept, prompt, -, underway⟩ := started.open opened
  obtain ⟨later, keeps, settled⟩ := prompt.settle first underway
  exact ⟨later, kept.trans keeps, settled⟩

theorem max_exact (a b : Rat) : (Seconds.exact a).max (.exact b) = .exact (max a b) := by
  rw [Seconds.max, Seconds.lt_exact]
  by_cases less : a < b
  · rw [if_pos (decide_eq_true less), max_eq_right less.le]
  · rw [if_neg (by simpa using less), max_eq_left (not_lt.mp less)]

/-- The timer that is due fires, and things settle. -/
theorem Resting.fire (first : request.firstRequest = .exact 0)
    (resting : Resting request habit now r) {timer : Timer}
    (alone : r.verification.timers = [timer]) {due target : Rat} (isDue : timer.due = .exact due)
    (soon : now < due) (early : due ≤ target) :
    ∃ later between, due ≤ later ∧ Settled request habit later between
      ∧ ∀ n, fireWithin (.exact target) (n + 1) r = fireWithin (.exact target) n between := by
  have clock : r.verification.clock.max timer.due = .exact due := by
    rw [resting.prompt.clock, isDue, max_exact, max_eq_right soon.le]
  have armed : timer ∈ (r.verification.tick (r.verification.clock.max timer.due)).timers := by
    show timer ∈ r.verification.timers
    rw [alone]
    exact List.mem_cons_self
  have fired : Prompt request habit due { r with
      verification := (r.verification.tick (r.verification.clock.max timer.due)).fire timer } := by
    refine ⟨resting.prompt.toSmooth.congr ?_, resting.prompt.faithful.classifier,
      resting.prompt.faithful.follows, (resting.prompt.faithful.course.tick _).fire timer⟩
    rw [Verification.fire, if_pos armed]
    exact clock
  have underway : Underway 0 [.pollAgain] []
      ((r.verification.tick (r.verification.clock.max timer.due)).fire timer) := by
    rw [Verification.fire, if_pos armed]
    refine ⟨resting.tasks, congrArg (· ++ [Callback.pollAgain]) resting.queue, ?_⟩
    show r.verification.timers.filter (· != timer) = []
    rw [alone]
    simp
  obtain ⟨later, beyond, settled⟩ := fired.settle first underway
  refine ⟨later, _, beyond, settled, fun n => ?_⟩
  rw [fireWithin, alone]
  have reached : timer.due.le (.exact target) = true := by
    rw [isDue, Seconds.le_exact_iff]
    exact early
  exact if_pos reached

theorem earliest_mem {timers : List Timer} {timer : Timer} (found : earliest timers = some timer) :
    timer ∈ timers := by
  induction timers generalizing timer with
  | nil => cases found
  | cons head rest ih =>
    rw [earliest] at found
    cases least : earliest rest with
    | none =>
      rw [least] at found
      obtain rfl := Option.some.inj found
      exact List.mem_cons_self
    | some other =>
      rw [least] at found
      dsimp only at found
      split at found
      · exact List.mem_cons_of_mem _ (ih (least.trans found))
      · obtain rfl := Option.some.inj found
        exact List.mem_cons_self

/-- Timers that are due later do not fire. -/
theorem fireWithin_of_later {target : Rat} (later : ∀ timer ∈ r.verification.timers,
    ∃ due : Rat, timer.due = .exact due ∧ target < due) (n : Nat) :
    fireWithin (.exact target) n r = r := by
  cases n with
  | zero => rfl
  | succ n =>
    rw [fireWithin]
    cases found : earliest r.verification.timers with
    | none => rfl
    | some timer =>
      obtain ⟨due, isDue, beyond⟩ := later timer (earliest_mem found)
      dsimp only
      rw [if_neg]
      rw [isDue, Seconds.le_exact_iff]
      exact not_le.mpr beyond

theorem Resting.tick (resting : Resting request habit now r) {later : Rat}
    (soon : ∀ timer ∈ r.verification.timers, ∃ due : Rat, timer.due = .exact due ∧ later < due) :
    Resting request habit later { r with verification := r.verification.tick (.exact later) } where
  prompt := ⟨resting.prompt.toSmooth.congr rfl, resting.prompt.faithful.classifier,
    resting.prompt.faithful.follows, resting.prompt.faithful.course.tick _⟩
  tasks := resting.tasks
  queue := resting.queue
  timers := by
    intro timer member
    obtain ⟨due, isDue, beyond⟩ := soon timer member
    obtain ⟨same, isSame, -, bound⟩ := resting.timers timer member
    obtain rfl := Seconds.exact.inj (isDue.symm.trans isSame)
    exact ⟨due, isDue, beyond, bound⟩

theorem firings_pos {timer : Timer} (alone : r.verification.timers = [timer]) (target : Seconds) :
    0 < firings r target := by
  rw [firings, alone]
  have polls (span : Seconds) : 0 < r.pollsWithin span := by
    rw [pollsWithin]
    omega
  exact Nat.mul_pos (by simp) (polls _)

/-- What is left after the timer has fired, if it was due, rests when the second is over. -/
theorem Resting.pass {middle : Rat} {between : Rehearsal}
    (rests : Resting request habit middle between)
    (clock : r.verification.clock = .exact now)
    (fired : fireWithin (.exact (now + 1)) (firings r (.exact (now + 1))) r = between)
    (far : ∀ timer ∈ between.verification.timers,
      ∃ due : Rat, timer.due = .exact due ∧ max middle (now + 1) < due) :
    Resting request habit (max middle (now + 1)) (r.act (.advance 1)).1 := by
  have target : r.verification.clock + 1 = .exact (now + 1) := by
    rw [clock]
    rfl
  have advanced : r.advance 1 = { between with
      verification := between.verification.tick (.exact (max middle (now + 1))) } := by
    rw [Rehearsal.advance, target, fired, rests.prompt.clock, max_exact]
  have rested := rests.tick far
  rw [← advanced] at rested
  show Resting request habit _ (r.advance 1).settle
  rwa [settle_of_nil rested.queue]

/-- While a verification rests a second passes, and it rests again. -/
theorem Resting.advance (first : request.firstRequest = .exact 0)
    (resting : Resting request habit now r)
    (live : r.verification.verifier.terminated = false) :
    ∃ later, now + 1 ≤ later ∧ Resting request habit later (r.act (.advance 1)).1 := by
  obtain ⟨timer, due, alone, isDue, soon, bound⟩ := resting.lt_of_live live
  by_cases early : due ≤ now + 1
  · obtain ⟨later, between, beyond, settled, fires⟩ := resting.fire first alone isDue soon early
    have far : ∀ other ∈ between.verification.timers,
        ∃ due : Rat, other.due = .exact due ∧ max later (now + 1) < due := by
      intro other member
      obtain ⟨isLater, -⟩ := settled.timers other member
      exact ⟨later + 90, isLater, max_lt (by linarith) (by linarith)⟩
    refine ⟨_, le_max_right _ _, settled.resting.pass resting.prompt.clock ?_ far⟩
    obtain ⟨n, enough⟩ := Nat.exists_eq_add_of_lt (firings_pos alone (.exact (now + 1)))
    rw [enough, Nat.zero_add, fires, fireWithin_of_later]
    intro other member
    obtain ⟨due, isLater, past⟩ := far other member
    exact ⟨due, isLater, (le_max_right _ _).trans_lt past⟩
  · refine ⟨_, le_max_right _ _,
      resting.pass resting.prompt.clock (fireWithin_of_later ?_ _) ?_⟩
    · intro other member
      rw [alone] at member
      obtain rfl := List.mem_singleton.mp member
      exact ⟨due, isDue, not_le.mp early⟩
    · intro other member
      rw [alone] at member
      obtain rfl := List.mem_singleton.mp member
      exact ⟨due, isDue, max_lt soon (not_le.mp early)⟩

end Seconds

theorem smooth_ofRequest {request : Request} {start : Rat} {onResult onFault : List Reaction}
    {provider : Option ProxyAnswer} {agent : Text} {replies : List TimedReply} {r : Rehearsal}
    (forward : ∀ next ∈ replies, next.Forward)
    (made : Rehearsal.ofRequest request (.exact start) onResult onFault provider agent replies =
      .ok r) : Smooth start r := by
  rw [Rehearsal.ofRequest] at made
  split at made
  · cases made
  · next log _ =>
    obtain rfl := Except.ok.inj made
    refine ⟨rfl, rfl, rfl, forward, ?_⟩
    show (Rehearsal.log _ log).clock = _
    rw [log_eq]
    rfl

section Bound

variable {r : Rehearsal}

theorem setback_of_forward {next : TimedReply} (forward : next.Forward) : next.setback = 0 := by
  obtain ⟨elapse, takes, positive⟩ := forward
  have value : next.elapse.toRat? = some elapse := by rw [takes]; rfl
  rw [TimedReply.setback, value]
  exact if_neg (not_lt.mpr (Rat.num_nonneg.mpr positive))

theorem foldl_setback (replies : List TimedReply) (forward : ∀ next ∈ replies, next.Forward) :
    replies.foldl (fun sum next => sum + next.setback) 0 = 0 := by
  induction replies with
  | nil => rfl
  | cons next rest ih =>
    rw [List.foldl_cons, setback_of_forward (forward next List.mem_cons_self), add_zero]
    exact ih fun other member => forward other (List.mem_cons_of_mem _ member)

/-- In the time for requests the polls that are ninety seconds apart are 480 at least. -/
theorem pollsWithin_ge (forward : ∀ next ∈ r.replies, next.Forward) :
    480 ≤ r.pollsWithin requestPeriod := by
  have last : (r.replies.getLast?.map TimedReply.setback).getD 0 = 0 := by
    cases found : r.replies.getLast? with
    | none => rfl
    | some next => exact setback_of_forward (forward next (List.mem_of_getLast? found))
  have period : requestPeriod.toRat?.getD 0 = 43200 := by decide +kernel
  have between : repeatPeriod.toRat?.getD 0 = 90 := by decide +kernel
  have rounds : ((43200 + 0 : Rat) / (90 - 0)).floor.toNat = 480 := by decide +kernel
  rw [pollsWithin, last, mul_zero, foldl_setback r.replies forward, period, between, rounds]
  omega

end Bound

end Rehearsal

end TransferProof
