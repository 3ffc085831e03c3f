import TransferProof.Proofs.Verification.Steps

/-!
# The chain of polls

A verifier that is started once, and not again by its handlers, has at most one thing under way: a
poll in the pool, a callback in the queue or a timer. While it has not ended it has exactly one, as
long as the service brings nothing but outcomes that are known. So polls neither multiply nor stall.
-/

namespace TransferProof

/-- A fault, or an outcome with one of the four known tags. -/
def PollResult.isKnown : PollResult → Bool
  | .error _ => true
  | .ok (.outcome outcome) => Tag.known.contains outcome.tag
  | .ok (.other _) => false

def Callback.isKnown : Callback → Bool
  | .polled result => PollResult.isKnown result
  | _ => true

theorem Verifier.Strange.not_isKnown {result : PollResult} (strange : Verifier.Strange result) :
    PollResult.isKnown result = false := by
  cases strange with
  | noOutcome shown => rfl
  | unknownTag tag => simp [PollResult.isKnown, tag, Tag.known]

namespace Verification

open Verifier

def Event.isKnown : Event → Bool
  | .finish result => PollResult.isKnown result
  | _ => true

/-- The number of things under way: polls in the pool, callbacks in the queue and timers. -/
def outstanding (s : Verification) : Nat :=
  s.tasks + s.queue.length + s.timers.length

structure Idle (s : Verification) : Prop where
  poolOpen : s.poolOpen = true
  tasks : s.tasks = 0
  queue : s.queue = []
  timers : s.timers = []

/-- At most one thing is under way, and the verifier knows of it if it is a timer. -/
structure Chain (s : Verification) : Prop where
  poolOpen : s.poolOpen = true
  single : s.outstanding ≤ 1
  held : ∀ timer ∈ s.timers, s.verifier.timer = some timer
  ended : s.verifier.terminated = true → s.timers = []

/-- Something is under way until the end, and it brings nothing strange. -/
structure Alive (s : Verification) : Prop where
  known : ∀ callback ∈ s.queue, callback.isKnown = true
  live : s.verifier.terminated = false → s.outstanding = 1

namespace Idle

variable {s t : Verification}

theorem congr (idle : Idle s) (poolOpen : t.poolOpen = s.poolOpen) (tasks : t.tasks = s.tasks)
    (queue : t.queue = s.queue) (timers : t.timers = s.timers) : Idle t :=
  ⟨poolOpen.trans idle.poolOpen, tasks.trans idle.tasks, queue.trans idle.queue,
    timers.trans idle.timers⟩

theorem outstanding_eq_zero (idle : Idle s) : s.outstanding = 0 := by
  rw [outstanding, idle.tasks, idle.queue, idle.timers]
  rfl

theorem chain (idle : Idle s) : Chain s where
  poolOpen := idle.poolOpen
  single := by
    have := idle.outstanding_eq_zero
    omega
  held := by
    intro timer member
    rw [idle.timers] at member
    cases member
  ended := fun _ => idle.timers

theorem alive (idle : Idle s) (ended : s.verifier.terminated = true) : Alive s where
  known := by
    intro callback member
    rw [idle.queue] at member
    cases member
  live := by
    intro live
    rw [ended] at live
    cases live

theorem callOff (idle : Idle s) (held : Option Timer) : Idle (s.callOff held) := by
  constructor
  · rw [callOff_poolOpen, idle.poolOpen]
  · rw [callOff_tasks, idle.tasks]
  · rw [callOff_queue, idle.queue]
  · rw [callOff_timers, idle.timers]
    rfl

end Idle

/-- The queue was not empty, so the callback taken from it was all that was under way. -/
theorem Chain.pop {s : Verification} (chain : Chain s) {callback : Callback}
    {rest : List Callback} (queued : s.queue = callback :: rest) :
    Idle { s with queue := rest } := by
  have single := chain.single
  rw [outstanding, queued, List.length_cons] at single
  have tasks : s.tasks = 0 := by omega
  have noCallback : rest.length = 0 := by omega
  have noTimer : s.timers.length = 0 := by omega
  exact ⟨chain.poolOpen, tasks, List.length_eq_zero_iff.mp noCallback,
    List.length_eq_zero_iff.mp noTimer⟩

theorem adopt_submit {s : Verification} (poolOpen : s.poolOpen = true) (v : Verifier) :
    s.adopt { verifier := v, effects := [.submit] } =
      ({ s with
          verifier := v, submissions := s.submissions + 1, tasks := s.tasks + 1 }.observe
        (.submitted s.clock), none) := by
  simp only [adopt, carryOutAll, carryOut, poolOpen, if_true]

/-- A verifier that is started when nothing is under way has one thing under way, or has ended. -/
theorem chain_opening {s : Verification} (idle : Idle s) {d : Decision}
    (opening : Opening s.verifier s.clock d) : Chain (s.adopt d).1 ∧ Alive (s.adopt d).1 := by
  have noTimer : s.timers.length = 0 := List.length_eq_zero_iff.mpr idle.timers
  cases opening with
  | refuse ended record =>
    have same : Idle (s.adopt { verifier := s.verifier, effects := [.log record] }).1 :=
      idle.congr rfl rfl rfl rfl
    exact ⟨same.chain, same.alive ended⟩
  | tooLate live overdue =>
    have one : (s.adopt { verifier := s.verifier, effects := [.enqueue .giveUp] }).1.outstanding
        = 1 := by
      show s.tasks + (s.queue ++ [Callback.giveUp]).length + s.timers.length = 1
      rw [idle.tasks, idle.queue, noTimer]
      rfl
    have chain := idle.chain
    refine ⟨⟨idle.poolOpen, Nat.le_of_eq one, chain.held, chain.ended⟩, ?_, fun _ => one⟩
    intro callback member
    have queued : callback ∈ s.queue ++ [Callback.giveUp] := member
    rw [idle.queue] at queued
    obtain rfl := List.mem_singleton.mp queued
    rfl
  | poll live timely =>
    rw [adopt_submit idle.poolOpen]
    have one : s.tasks + 1 + s.queue.length + s.timers.length = 1 := by
      rw [idle.tasks, idle.queue, noTimer]
      rfl
    have chain := idle.chain
    refine ⟨⟨idle.poolOpen, Nat.le_of_eq one, chain.held, chain.ended⟩, ?_, fun _ => one⟩
    intro callback member
    have queued : callback ∈ s.queue := member
    rw [idle.queue] at queued
    cases queued

/-- To be called off can only be the one thing that is under way. -/
theorem chain_terminate {s : Verification} (chain : Chain s) :
    Chain ({ s with verifier := s.verifier.stopped }.callOff s.verifier.timer) := by
  have disarmed :
      ({ s with verifier := s.verifier.stopped }.callOff s.verifier.timer).timers = [] := by
    rw [callOff_timers, List.filter_eq_nil_iff]
    intro timer member
    rw [chain.held timer member]
    simp
  refine ⟨?_, ?_, ?_, fun _ => disarmed⟩
  · rw [callOff_poolOpen]
    exact chain.poolOpen
  · have single := chain.single
    rw [outstanding] at single
    rw [outstanding, disarmed, callOff_tasks, callOff_queue]
    show s.tasks + s.queue.length + 0 ≤ 1
    omega
  · intro timer member
    rw [disarmed] at member
    cases member

theorem alive_terminate {s : Verification} (alive : Alive s) :
    Alive ({ s with verifier := s.verifier.stopped }.callOff s.verifier.timer) := by
  constructor
  · intro callback member
    rw [callOff_queue] at member
    exact alive.known callback member
  · intro live
    rw [callOff_verifier] at live
    cases live

/-- A conclusion begins nothing. -/
theorem idle_conclude {s : Verification} (idle : Idle s) (outcome : Outcome)
    (records : List LogRecord) (before : List Notice) :
    Idle (s.adopt (s.verifier.conclude outcome (records.map .log) before)).1 := by
  rw [adopt_conclude]
  refine Idle.callOff ?_ _
  exact idle.congr rfl rfl rfl rfl

theorem chain_ruling {s : Verification} {callback : Callback} {rest : List Callback} {d : Decision}
    (chain : Chain s) (queued : s.queue = callback :: rest)
    (ruling : Ruling s.verifier s.clock s.fresh callback d) :
    Chain ({ s with queue := rest }.adopt d).1
      ∧ (callback.isKnown = true → Alive ({ s with queue := rest }.adopt d).1) := by
  have idle := chain.pop queued
  cases ruling with
  | reopen opening =>
    have opened := chain_opening idle opening
    exact ⟨opened.1, fun _ => opened.2⟩
  | drop ended records =>
    rw [adopt_log]
    have same : Idle (noted { s with
        queue := rest, verifier := s.verifier.storing callback } records) :=
      idle.congr rfl rfl rfl rfl
    refine ⟨same.chain, fun _ => same.alive ?_⟩
    exact (storing_terminated s.verifier callback).trans ended
  | @ignore result live strange records =>
    rw [adopt_log]
    have same : Idle (noted { s with
        queue := rest, verifier := s.verifier.storing (.polled result) } records) :=
      idle.congr rfl rfl rfl rfl
    refine ⟨same.chain, fun known => ?_⟩
    have unknown := strange.not_isKnown
    rw [Callback.isKnown, unknown] at known
    cases known
  | @wait outcome timer live tag timely next =>
    -- The timer takes the place of the callback.
    have noTimer : s.timers = [] := idle.timers
    have one : s.tasks + rest.length + (s.timers ++ [timer]).length = 1 := by
      have tasks : s.tasks = 0 := idle.tasks
      have nothing : rest = [] := idle.queue
      rw [tasks, nothing, noTimer]
      rfl
    refine ⟨⟨idle.poolOpen, Nat.le_of_eq one, ?_, ?_⟩, fun _ => ⟨?_, fun _ => one⟩⟩
    · intro armed member
      have among : armed ∈ s.timers ++ [timer] := member
      rw [noTimer] at among
      obtain rfl := List.mem_singleton.mp among
      rfl
    · intro ended
      exact absurd (live.symm.trans ended) Bool.false_ne_true
    · intro callback member
      have among : callback ∈ rest := member
      rw [show rest = [] from idle.queue] at among
      cases among
  | @conclude _ outcome before live ending records =>
    have same : Idle ({ s with queue := rest }.adopt
        (s.verifier.conclude outcome (records.map .log) before)).1 :=
      idle_conclude idle outcome records before
    refine ⟨same.chain, fun _ => same.alive ?_⟩
    rw [adopt_verifier]
    rfl

theorem chain_finish {s : Verification} (chain : Chain s) (result : PollResult) :
    Chain (s.finish result) := by
  rw [finish]
  split
  case isTrue => exact chain
  case isFalse busy =>
    refine ⟨chain.poolOpen, ?_, chain.held, chain.ended⟩
    have single := chain.single
    simp only [outstanding, List.length_append, List.length_singleton] at single ⊢
    omega

theorem alive_finish {s : Verification} (alive : Alive s) {result : PollResult}
    (known : result.isKnown = true) : Alive (s.finish result) := by
  rw [finish]
  split
  case isTrue => exact alive
  case isFalse busy =>
    constructor
    · intro callback member
      rcases List.mem_append.mp member with queued | new
      · exact alive.known callback queued
      · obtain rfl := List.mem_singleton.mp new
        exact known
    · intro live
      have one := alive.live live
      simp only [outstanding, List.length_append, List.length_singleton] at one ⊢
      omega

/-- The timer that fires was the only thing under way, and a poll takes its place. -/
theorem Chain.timers_of_mem {s : Verification} (chain : Chain s) {timer : Timer}
    (member : timer ∈ s.timers) :
    s.timers = [timer] ∧ s.tasks = 0 ∧ s.queue = [] := by
  have single := chain.single
  rw [outstanding] at single
  have positive := List.length_pos_of_mem member
  have one : s.timers.length = 1 := by omega
  obtain ⟨only, alone⟩ := List.length_eq_one_iff.mp one
  rw [alone] at member
  obtain rfl := List.mem_singleton.mp member
  exact ⟨alone, by omega, List.length_eq_zero_iff.mp (by omega)⟩

theorem chain_fire {s : Verification} (chain : Chain s) (timer : Timer) :
    Chain (s.fire timer) ∧ (Alive s → Alive (s.fire timer)) := by
  rw [fire]
  split
  case isFalse => exact ⟨chain, id⟩
  case isTrue armed =>
    obtain ⟨alone, tasks, queue⟩ := chain.timers_of_mem armed
    have disarmed : s.timers.filter (· != timer) = [] := by
      rw [alone]
      simp
    have one : s.tasks + (s.queue ++ [Callback.pollAgain]).length
        + (s.timers.filter (· != timer)).length = 1 := by
      rw [disarmed, tasks, queue]
      rfl
    refine ⟨⟨chain.poolOpen, Nat.le_of_eq one, ?_, fun _ => disarmed⟩, fun _ => ⟨?_, fun _ => one⟩⟩
    · intro other member
      exact chain.held other (List.mem_filter.mp member).1
    · intro callback member
      have among : callback ∈ s.queue ++ [Callback.pollAgain] := member
      rw [queue] at among
      obtain rfl := List.mem_singleton.mp among
      rfl

/-- What can happen after the one start, and with `known` only known results come in. -/
def Event.Continues (known : Prop) (event : Event) : Prop :=
  event ≠ .start ∧ event ≠ .closePool ∧ (known → event.isKnown = true)

theorem lasting_idle :
    Lasting (· ≠ .start) (Event.Continues False) fun _ s => Idle s where
  starts := fun continues => absurd rfl continues.1
  opened := fun allowed => absurd rfl allowed
  terminated := by
    intro _ s idle
    refine Idle.callOff ?_ _
    exact idle.congr rfl rfl rfl rfl
  ticked := fun _ idle => idle.congr rfl rfl rfl rfl
  reported := fun idle => idle.congr rfl rfl rfl rfl
  delivered := fun idle => idle.congr rfl rfl rfl rfl
  abandoned := id
  failed := fun _ idle => idle.congr rfl rfl rfl rfl
  ruled := by
    intro s callback rest d idle queued
    rw [idle.queue] at queued
    cases queued
  finished := by
    intro s result _ idle
    rw [finish, if_pos idle.tasks]
    exact idle
  fired := by
    intro s timer idle
    rw [fire, if_neg]
    · exact idle
    · rw [idle.timers]
      exact List.not_mem_nil
  closed := fun continues => absurd rfl continues.2.1

theorem lasting_chain (known : Prop) :
    Lasting (· ≠ .start) (Event.Continues known) fun _ s => Chain s ∧ (known → Alive s) where
  starts := fun continues => absurd rfl continues.1
  opened := fun allowed => absurd rfl allowed
  terminated := fun h => ⟨chain_terminate h.1, fun k => alive_terminate (h.2 k)⟩
  ticked := fun _ h => ⟨{ h.1 with }, fun k => { h.2 k with }⟩
  reported := fun h => ⟨{ h.1 with }, fun k => { h.2 k with }⟩
  delivered := fun h => ⟨{ h.1 with }, fun k => { h.2 k with }⟩
  abandoned := id
  failed := fun _ h => ⟨{ h.1 with }, fun k => { h.2 k with }⟩
  ruled := by
    intro s callback rest d h queued ruling
    have ruled := chain_ruling h.1 queued ruling
    refine ⟨ruled.1, fun k => ruled.2 ((h.2 k).known callback ?_)⟩
    rw [queued]
    exact List.mem_cons_self
  finished := fun continues h =>
    ⟨chain_finish h.1 _, fun k => alive_finish (h.2 k) (continues.2.2 k)⟩
  fired := fun timer h =>
    have fired := chain_fire h.1 timer
    ⟨fired.1, fun k => fired.2 (h.2 k)⟩
  closed := fun continues => absurd rfl continues.2.1

/-- The handlers do not start the verifier, and it is started once from outside; the pool stays
open. Then at most one thing is under way after the start, and until the end there is one unless the
service brought something strange. A timer that is armed is the one that the verifier holds, so that
none is armed after the end. -/
theorem single_chain {request : Request} {clock : Seconds} {onResult onFault : List Reaction}
    {before after : List Event} {s : Verification}
    (handlers : ∀ reaction ∈ onResult ++ onFault, ∀ move ∈ reaction.moves, move ≠ .start)
    (once : ∀ event ∈ before ++ after, event ≠ .start ∧ event ≠ .closePool)
    (reached : s = (ofRequest request clock onResult onFault).run (before ++ .start :: after)) :
    s.outstanding ≤ 1
      ∧ ((∀ event ∈ after, event.isKnown = true) → s.verifier.terminated = false →
          s.outstanding = 1)
      ∧ (∀ timer ∈ s.timers, s.verifier.timer = some timer)
      ∧ (s.verifier.terminated = true → s.timers = [])
      ∧ s.terminate.timers = [] := by
  have beforeStart : ∀ event ∈ before, Event.Continues False event := by
    intro event member
    obtain ⟨noStart, noClose⟩ := once event (List.mem_append_left _ member)
    exact ⟨noStart, noClose, False.elim⟩
  have afterStart : ∀ event ∈ after,
      Event.Continues (∀ event ∈ after, event.isKnown = true) event := by
    intro event member
    obtain ⟨noStart, noClose⟩ := once event (List.mem_append_right _ member)
    exact ⟨noStart, noClose, fun known => known event member⟩
  have begun : Idle (ofRequest request clock onResult onFault) := ⟨rfl, rfl, rfl, rfl⟩
  have follows : (ofRequest request clock onResult onFault).Follows (· ≠ .start) := handlers
  -- Up to the start nothing is under way, and from there on the chain holds.
  obtain ⟨followed, idle⟩ := lasting_idle.run beforeStart follows begun
  have started := chain_opening idle (opening_start _ _)
  rw [← start_eq] at started
  have followed : Follows _ (· ≠ .start) := followed.of_plans (start_plans _)
  have chained := ((lasting_chain _).run afterStart followed ⟨started.1, fun _ => started.2⟩).2
  have reached :
      s = (((ofRequest request clock onResult onFault).run before).start.1).run after := by
    rw [reached, run_append]
    rfl
  rw [← reached] at chained
  obtain ⟨chain, alive⟩ := chained
  have ended := chain_terminate chain
  rw [← terminate_eq] at ended
  refine ⟨chain.single, fun known => (alive known).live, chain.held, chain.ended, ended.ended ?_⟩
  rw [terminate_eq, callOff_verifier]
  rfl

/-- A pending answer whose handler fails: the next poll is due all the same. -/
def overheard : Verification :=
  (small [{ fault := some (.plain .runtime none) }]).run
    ([.tick 6] ++ .start :: [.finish (.ok (.outcome (.pending (.ofKind .txNotFound)))), .runNext])

theorem single_chain_overheard :
    overheard.outstanding = 1 ∧ overheard.timers = [⟨0, 96⟩]
      ∧ overheard.verifier.timer = some ⟨0, 96⟩ ∧ overheard.terminate.timers = [] := by
  have chain := single_chain (s := overheard) (by decide) (by simp) rfl
  have armed : overheard.timers = [⟨0, 96⟩] := by decide +kernel
  refine ⟨chain.2.1 (by decide) (by decide +kernel), armed, chain.2.2.1 _ ?_, chain.2.2.2.2⟩
  rw [armed]
  exact List.mem_singleton.mpr rfl

end Verification

end TransferProof
