import Mathlib.Tactic.Linarith
import TransferProof.Proofs.Verification.Chain
import TransferProof.Proofs.Verification.Deadline

/-!
# The pace of polls

A verifier that is started once polls at intervals of at least ninety seconds, however long the
calls and the handlers take, if its clock does not go back and no timer brings the next poll before
it is due. So in the twelve hours that it has it polls at most 481 times.
-/

namespace TransferProof

theorem Seconds.le_exact_iff {a b : Rat} : (exact a).le (exact b) = true ↔ a ≤ b := by
  rw [le_exact, Bool.or_eq_true, decide_eq_true_iff, beq_iff_eq]
  exact le_iff_lt_or_eq.symm

/-- A handler does not start the verifier, and the time that it takes is not negative. -/
def Move.Unhurried : Move → Prop
  | .start => False
  | .terminate => True
  | .linger seconds => ∃ q : Rat, seconds = .exact q ∧ 0 ≤ q

namespace Verification

open Verifier

/-- The verifier is not started once more, the clock does not go back, and the next poll does not
run before the timer that brings it is due. -/
def Punctual (s : Verification) : Event → Prop
  | .start => False
  | .tick time => s.clock.le time = true ∧ ∃ q : Rat, time = .exact q
  | .runNext => s.queue.head? = some .pollAgain →
      ∀ timer, s.verifier.timer = some timer → timer.due.le s.clock = true
  | _ => True

def readings (history : List Observation) : List Seconds :=
  history.filterMap fun
    | .submitted reading => some reading
    | _ => none

/-- The earliest of these readings is not before `start`, and every other one is at least ninety
seconds later than it would be if all before it were as early as they can be. -/
def Spaced (start : Rat) : List Seconds → Prop
  | [] => True
  | reading :: earlier =>
    (∃ q : Rat, reading = .exact q ∧ start + 90 * earlier.length ≤ q) ∧ Spaced start earlier

theorem Spaced.getElem? {start : Rat} {newest : List Seconds} (spaced : Spaced start newest)
    {k : Nat} {reading : Seconds} (at_k : newest.reverse[k]? = some reading) :
    ∃ q : Rat, reading = .exact q ∧ start + 90 * k ≤ q := by
  induction newest with
  | nil => cases at_k
  | cons last earlier ih =>
    rw [List.reverse_cons] at at_k
    rcases Nat.lt_trichotomy k earlier.length with before | rfl | beyond
    · rw [List.getElem?_append_left (by rwa [List.length_reverse])] at at_k
      exact ih spaced.2 at_k
    · rw [← List.length_reverse, List.getElem?_concat_length] at at_k
      obtain rfl := Option.some.inj at_k
      exact spaced.1
    · rw [List.getElem?_eq_none] at at_k
      · cases at_k
      · rw [List.length_append, List.length_reverse, List.length_singleton]
        omega

theorem readings_noted (s : Verification) (records : List LogRecord) :
    readings (s.noted records).history = readings s.history :=
  filterMap_noted _ (fun _ => rfl) s records

theorem readings_callOff (s : Verification) (held : Option Timer) :
    readings (s.callOff held).history = readings s.history :=
  filterMap_callOff s held _ fun _ => rfl

/-- Something that was armed or has fired brings the next poll. -/
def Scheduled (s : Verification) : Prop :=
  s.timers ≠ [] ∨ .pollAgain ∈ s.queue

/-- How things stand with the pace of a verification that was started at `start`. -/
structure Paced (start : Rat) (s : Verification) : Prop where
  counted : (readings s.history).length = s.submissions
  spaced : Spaced start (readings s.history)
  single : s.outstanding ≤ 1
  /-- By now there has been time for all polls but the last one. -/
  clock : ∃ now : Rat, s.clock = .exact now ∧ start + 90 * s.submissions ≤ now + 90
  /-- When the timer that brings the next poll is due there will have been time for that, too. -/
  next : s.verifier.terminated = false → s.Scheduled →
    ∃ timer, s.verifier.timer = some timer
      ∧ ∃ due : Rat, timer.due = .exact due ∧ start + 90 * s.submissions ≤ due

namespace Paced

variable {start : Rat} {s t : Verification}

/-- What submits nothing and takes no time has to leave the next poll alone or call it off. -/
theorem congr (h : Paced start s) (sameReadings : readings t.history = readings s.history)
    (submissions : t.submissions = s.submissions) (clock : t.clock = s.clock)
    (single : t.outstanding ≤ 1)
    (next : t.verifier.terminated = false → t.Scheduled →
      s.verifier.terminated = false ∧ s.Scheduled ∧ t.verifier.timer = s.verifier.timer) :
    Paced start t where
  counted := by rw [sameReadings, submissions, h.counted]
  spaced := by
    rw [sameReadings]
    exact h.spaced
  single := single
  clock := by
    rw [clock, submissions]
    exact h.clock
  next := by
    intro live scheduled
    obtain ⟨wasLive, wasScheduled, sameTimer⟩ := next live scheduled
    rw [sameTimer, submissions]
    exact h.next wasLive wasScheduled

/-- The clock goes on. -/
theorem tick (h : Paced start s) {time : Rat} (later : s.clock.le (.exact time) = true) :
    Paced start (s.tick (.exact time)) where
  counted := h.counted
  spaced := h.spaced
  single := h.single
  clock := by
    obtain ⟨now, reads, room⟩ := h.clock
    rw [reads, Seconds.le_exact_iff] at later
    refine ⟨time, rfl, ?_⟩
    show start + 90 * (s.submissions : Rat) ≤ time + 90
    linarith
  next := h.next

/-- The queue was not empty, so the callback taken from it was all that was under way. -/
theorem alone (h : Paced start s) {callback : Callback} {rest : List Callback}
    (queued : s.queue = callback :: rest) : s.tasks = 0 ∧ rest = [] ∧ s.timers = [] := by
  have single := h.single
  rw [outstanding, queued, List.length_cons] at single
  have tasks : s.tasks = 0 := by omega
  have noCallback : rest.length = 0 := by omega
  have noTimer : s.timers.length = 0 := by omega
  exact ⟨tasks, List.length_eq_zero_iff.mp noCallback, List.length_eq_zero_iff.mp noTimer⟩

/-- After the only callback was taken nothing is under way. -/
theorem pop (h : Paced start s) {callback : Callback} {rest : List Callback}
    (queued : s.queue = callback :: rest) : Paced start { s with queue := rest } := by
  obtain ⟨tasks, rfl, timers⟩ := h.alone queued
  refine h.congr rfl rfl rfl ?_ ?_
  · show s.tasks + 0 + s.timers.length ≤ 1
    rw [tasks, timers]
    exact Nat.zero_le 1
  · rintro _ (armed | fired)
    · exact absurd timers armed
    · cases fired

/-- One more poll, for which there has been time. -/
theorem submit (h : Paced start s) {now : Rat} (reads : s.clock = .exact now)
    (room : start + 90 * s.submissions ≤ now) (tasks : s.tasks = 0) (queue : s.queue = [])
    (timers : s.timers = []) (v : Verifier) :
    Paced start ({ s with
      verifier := v, submissions := s.submissions + 1, tasks := s.tasks + 1 }.observe
        (.submitted s.clock)) where
  counted := congrArg (· + 1) h.counted
  spaced := by
    refine ⟨⟨now, reads, ?_⟩, h.spaced⟩
    show start + 90 * ((readings s.history).length : Rat) ≤ now
    rw [h.counted]
    exact room
  single := by
    show s.tasks + 1 + s.queue.length + s.timers.length ≤ 1
    rw [tasks, queue, timers]
    exact Nat.le_refl 1
  clock := by
    refine ⟨now, reads, ?_⟩
    show start + 90 * ((s.submissions + 1 : Nat) : Rat) ≤ now + 90
    push_cast
    linarith
  next := by
    rintro _ (armed | fired)
    · exact absurd timers armed
    · have fired : Callback.pollAgain ∈ s.queue := fired
      rw [queue] at fired
      cases fired

theorem opening (h : Paced start s) (tasks : s.tasks = 0) (queue : s.queue = [])
    (timers : s.timers = []) (room : s.verifier.terminated = false →
      ∃ now : Rat, s.clock = .exact now ∧ start + 90 * s.submissions ≤ now)
    {d : Decision} (opening : Opening s.verifier s.clock d) : Paced start (s.adopt d).1 := by
  have unscheduled : ¬ s.Scheduled := by
    rintro (armed | fired)
    · exact armed timers
    · rw [queue] at fired
      cases fired
  cases opening with
  | refuse ended record =>
    refine h.congr rfl rfl rfl h.single ?_
    exact fun _ scheduled => absurd scheduled unscheduled
  | tooLate live overdue =>
    refine h.congr rfl rfl rfl ?_ ?_
    · show s.tasks + (s.queue ++ [Callback.giveUp]).length + s.timers.length ≤ 1
      rw [tasks, queue, timers]
      exact Nat.le_refl 1
    · rintro _ (armed | fired)
      · exact absurd timers armed
      · have fired : Callback.pollAgain ∈ s.queue ++ [Callback.giveUp] := fired
        rw [queue] at fired
        cases List.mem_singleton.mp fired
  | poll live timely =>
    obtain ⟨now, reads, enough⟩ := room live
    by_cases poolOpen : s.poolOpen = true
    · rw [adopt_submit poolOpen]
      exact h.submit reads enough tasks queue timers s.verifier
    · have refused : s.adopt { verifier := s.verifier, effects := [.submit] } =
          (s, some Pool.refusal) := by
        simp only [adopt, carryOutAll, carryOut, if_neg poolOpen]
      rw [refused]
      exact h

theorem terminate (h : Paced start s) :
    Paced start ({ s with verifier := s.verifier.stopped }.callOff s.verifier.timer) := by
  refine h.congr ?_ ?_ ?_ ?_ ?_
  · rw [readings_callOff]
  · rw [callOff_submissions]
  · exact callOff_clock _ _
  · have single := h.single
    have fewer := List.length_filter_le (fun t => s.verifier.timer != some t) s.timers
    rw [outstanding] at single
    rw [outstanding, callOff_timers, callOff_tasks, callOff_queue]
    show s.tasks + s.queue.length + (s.timers.filter _).length ≤ 1
    omega
  · intro live
    rw [callOff_verifier] at live
    cases live

theorem ruled (h : Paced start s) (punctual : Punctual s .runNext) {callback : Callback}
    {rest : List Callback} {d : Decision} (queued : s.queue = callback :: rest)
    (ruling : Ruling s.verifier s.clock s.fresh callback d) :
    Paced start ({ s with queue := rest }.adopt d).1 := by
  obtain ⟨tasks, nothing, timers⟩ := h.alone queued
  have popped := h.pop queued
  have unscheduled : ¬ Scheduled { s with queue := rest } := by
    rintro (armed | fired)
    · exact armed timers
    · have fired : Callback.pollAgain ∈ rest := fired
      rw [nothing] at fired
      cases fired
  cases ruling with
  | reopen opening =>
    refine popped.opening tasks nothing timers ?_ opening
    intro live
    have fired : s.Scheduled := Or.inr (by rw [queued]; exact List.mem_cons_self)
    obtain ⟨timer, held, due, dueAt, room⟩ := h.next live fired
    obtain ⟨now, reads, _⟩ := h.clock
    have ready := punctual (by rw [queued]; rfl) timer held
    rw [dueAt, reads, Seconds.le_exact_iff] at ready
    exact ⟨now, reads, room.trans ready⟩
  | drop ended records =>
    rw [adopt_log]
    refine popped.congr (readings_noted _ _) rfl rfl popped.single ?_
    exact fun _ scheduled => absurd scheduled unscheduled
  | ignore live strange records =>
    rw [adopt_log]
    refine popped.congr (readings_noted _ _) rfl rfl popped.single ?_
    exact fun _ scheduled => absurd scheduled unscheduled
  | @wait outcome timer live tag timely next =>
    obtain ⟨now, reads, room⟩ := h.clock
    refine ⟨h.counted, h.spaced, ?_, h.clock, ?_⟩
    · show s.tasks + rest.length + (s.timers ++ [timer]).length ≤ 1
      rw [tasks, nothing, timers]
      exact Nat.le_refl 1
    · intro _ _
      refine ⟨timer, rfl, now + 90, ?_, room⟩
      rw [next, reads]
      rfl
  | @conclude _ outcome before live ending records =>
    rw [adopt_conclude]
    refine popped.congr ?_ ?_ ?_ ?_ ?_
    · rw [readings_callOff, readings_noted]
    · rw [callOff_submissions]
      rfl
    · rw [callOff_clock]
      rfl
    · rw [outstanding, callOff_timers, callOff_tasks, callOff_queue]
      show s.tasks + rest.length + (s.timers.filter _).length ≤ 1
      rw [tasks, nothing, timers]
      exact Nat.zero_le 1
    · intro ended
      rw [callOff_verifier] at ended
      cases ended

theorem finish (h : Paced start s) (result : PollResult) : Paced start (s.finish result) := by
  rw [Verification.finish]
  split
  case isTrue => exact h
  case isFalse busy =>
    refine h.congr rfl rfl rfl ?_ ?_
    · have single := h.single
      simp only [outstanding, List.length_append, List.length_singleton] at single ⊢
      omega
    · rintro live (armed | fired)
      · exact ⟨live, Or.inl armed, rfl⟩
      · refine ⟨live, Or.inr ?_, rfl⟩
        rcases List.mem_append.mp fired with old | new
        · exact old
        · cases List.mem_singleton.mp new

theorem fire (h : Paced start s) (timer : Timer) : Paced start (s.fire timer) := by
  rw [Verification.fire]
  split
  case isFalse => exact h
  case isTrue armed =>
    have single := h.single
    have fewer : (s.timers.filter (· != timer)).length < s.timers.length := by
      refine List.length_filter_lt_length_iff_exists.mpr ⟨timer, armed, ?_⟩
      simp
    refine h.congr rfl rfl rfl ?_ ?_
    · simp only [outstanding, List.length_append, List.length_singleton] at single ⊢
      omega
    · exact fun live _ => ⟨live, Or.inl (List.ne_nil_of_mem armed), rfl⟩

end Paced

theorem enduring_paced (start : Rat) :
    Enduring Move.Unhurried Punctual fun _ s => Paced start s where
  starts := fun impossible => absurd impossible id
  opened := fun impossible => absurd impossible id
  terminated := Paced.terminate
  lingered := by
    rintro notices s seconds ⟨q, rfl, nonneg⟩ _ h
    obtain ⟨now, reads, _⟩ := h.clock
    have later : s.clock + .exact q = .exact (now + q) := by rw [reads, Seconds.exact_add]
    rw [later]
    refine h.tick ?_
    rw [reads, Seconds.le_exact_iff]
    linarith
  reported := fun h => h.congr rfl rfl rfl h.single fun live scheduled => ⟨live, scheduled, rfl⟩
  delivered := fun h => h.congr rfl rfl rfl h.single fun live scheduled => ⟨live, scheduled, rfl⟩
  abandoned := id
  failed := fun _ h => h.congr rfl rfl rfl h.single fun live scheduled => ⟨live, scheduled, rfl⟩
  ruled := fun punctual h queued ruling => h.ruled punctual queued ruling
  finished := fun _ h => h.finish _
  fired := fun _ h => h.fire _
  ticked := by
    rintro s time ⟨later, q, rfl⟩ h
    exact h.tick later
  closed := fun _ h => h.congr rfl rfl rfl h.single fun live scheduled => ⟨live, scheduled, rfl⟩

structure Unbegun (s : Verification) : Prop where
  tasks : s.tasks = 0
  queue : s.queue = []
  timers : s.timers = []
  submissions : s.submissions = 0
  readings : readings s.history = []

theorem lasting_unbegun : Lasting Move.Unhurried (· ≠ .start) fun _ s => Unbegun s where
  starts := fun impossible => absurd rfl impossible
  opened := fun impossible => absurd impossible id
  terminated := by
    intro notices s h
    refine ⟨?_, ?_, ?_, ?_, ?_⟩
    · rw [callOff_tasks, h.tasks]
    · rw [callOff_queue, h.queue]
    · rw [callOff_timers, h.timers]
      rfl
    · rw [callOff_submissions, h.submissions]
    · rw [readings_callOff, h.readings]
  ticked := fun _ h => { h with }
  reported := fun h => { h with }
  delivered := fun h => { h with }
  abandoned := id
  failed := fun _ h => { h with }
  ruled := by
    intro s callback rest d h queued
    rw [h.queue] at queued
    cases queued
  finished := by
    intro s result _ h
    rw [finish, if_pos h.tasks]
    exact h
  fired := by
    intro s timer h
    rw [fire, if_neg]
    · exact h
    · rw [h.timers]
      exact List.not_mem_nil
  closed := fun _ h => { h with }

theorem Unbegun.paced {s : Verification} (h : Unbegun s) {start : Rat}
    (reads : s.clock = .exact start) : Paced start s.start.1 := by
  have none : (s.submissions : Rat) = 0 := by rw [h.submissions]; rfl
  have paced : Paced start s := by
    refine ⟨?_, ?_, ?_, ⟨start, reads, ?_⟩, ?_⟩
    · rw [h.readings, h.submissions]
      rfl
    · rw [h.readings]
      trivial
    · rw [outstanding, h.tasks, h.queue, h.timers]
      exact Nat.zero_le 1
    · rw [none]
      linarith
    · rintro _ (armed | fired)
      · exact absurd h.timers armed
      · rw [h.queue] at fired
        cases fired
  rw [start_eq]
  refine paced.opening h.tasks h.queue h.timers ?_ (opening_start _ _)
  refine fun _ => ⟨start, reads, ?_⟩
  rw [none]
  linarith

theorem paced_run {request : Request} {clock : Seconds} {onResult onFault : List Reaction}
    {before after : List Event} {start : Rat}
    (handlers : ∀ reaction ∈ onResult ++ onFault, ∀ move ∈ reaction.moves, move.Unhurried)
    (once : ∀ event ∈ before, event ≠ .start)
    (reads : ((ofRequest request clock onResult onFault).run before).clock = .exact start)
    (punctual : Along Punctual ((ofRequest request clock onResult onFault).run before).start.1
      after) :
    Paced start ((ofRequest request clock onResult onFault).run (before ++ .start :: after)) := by
  have follows : (ofRequest request clock onResult onFault).Follows Move.Unhurried := handlers
  have begun : Unbegun (ofRequest request clock onResult onFault) := ⟨rfl, rfl, rfl, rfl, rfl⟩
  -- Until the start nothing is under way, and from there on the pace is kept.
  obtain ⟨followed, unbegun⟩ := lasting_unbegun.run once follows begun
  have followed := followed.of_plans (start_plans _)
  have paced := ((enduring_paced start).run punctual followed (unbegun.paced reads)).2
  rwa [run_append]

/-- At most 481 readings fit into the window. -/
theorem Paced.submissions_le {start first : Rat} {request : Request} {notices : List Notice}
    {s : Verification} (paced : Paced start s) (inTime : InTime request notices s)
    (asked : request.firstRequest = .exact first) (notBefore : first ≤ start) :
    s.submissions ≤ 481 := by
  rw [← paced.counted]
  have spaced := paced.spaced
  cases polls : readings s.history with
  | nil => exact Nat.zero_le 481
  | cons last earlier =>
    rw [polls] at spaced
    obtain ⟨⟨q, rfl, room⟩, _⟩ := spaced
    have submitted : .submitted (.exact q) ∈ s.history := by
      have member : .exact q ∈ readings s.history := by
        rw [polls]
        exact List.mem_cons_self
      obtain ⟨o, among, reading⟩ := List.mem_filterMap.mp member
      cases o with
      | submitted reading' =>
        obtain rfl := Option.some.inj reading
        exact among
      | _ => cases reading
    have notLate : ¬ Late request.firstRequest (.exact q) := inTime.happened _ submitted
    rw [asked] at notLate
    have notLate : q ≤ first + 43200 := not_lt.mp notLate
    have few : 90 * (earlier.length : Rat) ≤ 90 * (480 : Nat) := by
      push_cast
      linarith
    have few : earlier.length ≤ 480 := by
      exact_mod_cast le_of_mul_le_mul_left few (by norm_num)
    rw [List.length_cons]
    omega

end Verification

end TransferProof
