import TransferProof.Proofs.Fleet.Sane

/-!
# A fleet never gets stuck

The callback thread may be blocked, with a poll of its own in hand, while the results of other polls
wait for it. It does not wait for itself: every slot of the pool is then held by a poll that needs
the thread no more before it ends, or by a submitter that has a thread of its own. `Progress` says
what follows for a fleet in any state, and `progress_run` that it holds whatever has happened.
-/

namespace TransferProof.Fleet

variable {s : Fleet}

section Events

/-- It happens by itself: nobody from outside does anything, and no time passes. -/
def Event.isOwn : Event → Bool
  | .take _ => true
  | .enter _ => true
  | .hook _ => true
  | .listen _ => true
  | .begin => true
  | .finish _ _ => true
  | .proceed => true
  | _ => false

/-- Whoever takes this step waits for nothing: a submitter goes on with handing in its poll, or a
worker begins one. -/
def Event.isPrompt : Event → Bool
  | .enter _ => true
  | .hook _ => true
  | .begin => true
  | _ => false

def Can (s : Fleet) : Event → Prop
  | .take task => s.pool.Can (.take task)
  | .enter task => s.pool.Can (.enter task)
  | .hook task => s.pool.Can (.hook task)
  | .listen task => task ∈ s.returning
  | .begin => s.pool.Can .begin
  | .finish task _ => s.pool.Can (.finish task)
  | .proceed => s.handing = none ∧ (s.chores ≠ [] ∨ s.thread.queue ≠ [])
  | _ => True

def ByThread (s : Fleet) : Event → Prop
  | .take task => s.handing = some task
  | .enter task => s.handing = some task
  | .hook task => s.handing = some task
  | .listen task => s.handing = some task
  | .proceed => True
  | _ => False

structure Other (s : Fleet) (event : Event) : Prop where
  own : event.isOwn = true
  apart : ¬ s.ByThread event
  can : s.Can event

/-- Events that can happen one after another, none by means of the callback thread. -/
def Others (s : Fleet) : List Event → Prop
  | [] => True
  | event :: rest => s.Other event ∧ (s.step event).Others rest

/-- How many steps can be taken without the callback thread before somebody asks for more. -/
def load (s : Fleet) : Nat := 2 * s.pool.work + s.returning.length

end Events

section Load

/-- Every step that is not the callback thread's alone leaves less to do. -/
theorem load_step_lt {event : Event} (own : event.isOwn = true) (can : s.Can event)
    (other : event ≠ .proceed) : (s.step event).load < s.load := by
  have pooled (event : Pool.Event PollTask) (own : event.isOwn = true) (can : s.pool.Can event) :
      (s.pool.step event).work < s.pool.work := Pool.work_step_lt own can
  cases event with
  | start | terminate | tick | goOff | bring => cases own
  | proceed => exact absurd rfl other
  | take task =>
    have less : (s.pool.take task).work < s.pool.work := pooled (.take task) rfl can
    show 2 * (s.pool.take task).work + s.returning.length < s.load
    rw [load]
    omega
  | enter task =>
    have less : (s.pool.enter task).work < s.pool.work := pooled (.enter task) rfl can
    show 2 * (s.pool.enter task).work + s.returning.length < s.load
    rw [load]
    omega
  | begin =>
    have less : s.pool.begin.work < s.pool.work := pooled .begin rfl can
    show 2 * s.pool.begin.work + s.returning.length < s.load
    rw [load]
    omega
  | hook task =>
    have less : (s.pool.hook task).work < s.pool.work := pooled (.hook task) rfl can
    have possible : task ∈ s.pool.spent ∨ task ∈ s.pool.unhooked := can
    have returning : (s.hook task).returning = s.returning ++ [task] := by
      rw [hook, if_pos possible]
    show (s.hook task).load < s.load
    rw [load, load, pool_hook, returning, List.length_append, List.length_singleton]
    omega
  | listen task =>
    have member : task ∈ s.returning := can
    have left := Pool.length_erase_add_one member
    show (s.listen task).load < s.load
    rw [load, load, (s.listen_frame task).1, (listen_of_mem member).1]
    omega
  | finish task result =>
    have less : (s.pool.finish task).work < s.pool.work := pooled (.finish task) rfl can
    obtain ⟨-, returning, -⟩ := s.finish_frame task result
    show (s.finish task result).load < s.load
    rw [load, load, pool_finish, returning]
    omega

/-- Without the callback thread only so much can happen by itself. -/
theorem Others.length_le {events : List Event} (others : s.Others events) :
    events.length ≤ s.load := by
  induction events generalizing s with
  | nil => exact Nat.zero_le _
  | cons event rest ih =>
    obtain ⟨first, others⟩ := others
    have less := load_step_lt first.own first.can fun proceed => first.apart (proceed ▸ trivial)
    exact Nat.succ_le_of_lt (Nat.lt_of_le_of_lt (ih others) less)

theorem chores_carryOut (s : Fleet) (verifier : Nat) (effect : Effect) :
    (s.carryOut verifier effect).chores = s.chores ∨ (s.carryOut verifier effect).chores = [] := by
  cases effect with
  | arm timer =>
    rw [carryOut]
    split
    · exact .inl rfl
    · exact .inr rfl
  | _ => exact .inl rfl

/-- A decision does not lead back to the move that led to it. -/
theorem chores_adopt_ne (s : Fleet) (verifier other : Nat) (move : Move) (d : Decision) :
    (s.adopt verifier d).chores ≠ .move other move :: s.chores := by
  obtain ⟨v, effects, notices⟩ := d
  cases effects <;> cases notices <;> simp [adopt]

/-- A chore that is done is done. -/
theorem perform_ne {chore : Chore} {rest : List Chore} (chores : s.chores = chore :: rest) :
    { s with chores := rest }.perform chore ≠ s := by
  intro same
  have left := congrArg Fleet.chores same
  rw [chores] at left
  cases chore with
  | effect verifier effect =>
    have carried : ({ s with chores := rest }.carryOut verifier effect).chores = _ := left
    obtain kept | none := chores_carryOut { s with chores := rest } verifier effect
    · exact List.cons_ne_self _ _ (carried.symm.trans kept)
    · exact List.cons_ne_nil _ _ (carried.symm.trans none)
  | tell verifier notice =>
    have told : s.told ++ [(verifier, notice)] = s.told := congrArg Fleet.told same
    simp at told
  | move verifier move =>
    have moved : ({ s with chores := rest }.move verifier move).chores = _ := left
    unfold Fleet.move at moved
    split at moved
    · exact chores_adopt_ne _ _ _ _ _ moved
    · exact chores_adopt_ne _ _ _ _ _ moved
    · exact List.cons_ne_self _ _ moved.symm
    · exact List.cons_ne_self _ _ moved.symm
  | fail fault => cases left

/-- A callback that has run is put with those that ran before it. -/
theorem ran_runNext {callback : Nat × Callback} {later : List (Nat × Callback)}
    (queue : s.thread.queue = callback :: later) :
    s.runNext.thread.ran = s.thread.ran ++ [callback] := by
  have next : (s.thread.runNext fun _ t => (t, none)).ran = s.thread.ran ++ [callback] := by
    unfold CallbackThread.runNext
    simp only [queue]
  unfold runNext
  simp only [queue]
  split <;> exact next

/-- What can happen by itself makes a difference. -/
theorem step_ne {event : Event} (own : event.isOwn = true) (can : s.Can event) :
    s.step event ≠ s := by
  by_cases proceeds : event = .proceed
  · subst proceeds
    obtain ⟨free, busy⟩ := can
    show s.proceed ≠ s
    unfold proceed
    split
    case h_1 task handing => cases free.symm.trans handing
    case h_2 chore rest none chores => exact perform_ne chores
    case h_3 none chores =>
      obtain ⟨⟨verifier, callback⟩, later, queue⟩ :=
        List.exists_cons_of_ne_nil (busy.resolve_left (absurd chores))
      intro same
      have ran : s.runNext.thread.ran = s.thread.ran ++ [(verifier, callback)] :=
        ran_runNext queue
      rw [same] at ran
      simp at ran
  · intro same
    have less := load_step_lt own can proceeds
    rw [same] at less
    exact Nat.lt_irrefl _ less

end Load

section Waiting

/-- The callback thread is handing in a poll, for which no slot is free. -/
structure Waits (s : Fleet) (task : PollTask) : Prop where
  handing : s.handing = some task
  blocked : task ∈ s.pool.blocked
  full : s.pool.free = 0

/-- Steps that are not the callback thread's let it go on with the poll that it is handing in. -/
structure Relieves (s : Fleet) (task : PollTask) (events : List Event) : Prop where
  others : s.Others events
  handing : (s.run events).handing = some task
  can : (s.run events).Can (.take task)

variable {workers capacity : Nat} {task : PollTask}

/-- The thread is not the one who is meant to take the step, while it waits. -/
theorem Waits.apart (waits : s.Waits task) (kept : Kept workers capacity s.polls s.pool)
    {other : PollTask} (elsewhere : other ∈ s.pool.entering ∨ other ∈ s.pool.spent
      ∨ other ∈ s.pool.unhooked) : s.handing ≠ some other := by
  rw [waits.handing]
  intro same
  exact Pool.ne_of_mem_blocked kept.pledged kept.different waits.blocked elsewhere
    (Option.some.inj same).symm

theorem Waits.other_enter (waits : s.Waits task) (kept : Kept workers capacity s.polls s.pool)
    {other : PollTask} (entering : other ∈ s.pool.entering) : s.Other (.enter other) :=
  ⟨rfl, waits.apart kept (.inl entering), entering⟩

theorem Waits.other_hook (waits : s.Waits task) (kept : Kept workers capacity s.polls s.pool)
    {other : PollTask} (midway : other ∈ s.pool.spent ∨ other ∈ s.pool.unhooked) :
    s.Other (.hook other) :=
  ⟨rfl, waits.apart kept (.inr midway), midway⟩

/-- While the callback thread waits, something happens without it. -/
theorem Waits.exists_other (waits : s.Waits task) (kept : Kept workers capacity s.polls s.pool)
    (staffed : 0 < workers) (room : 0 < capacity) : ∃ event, s.Other event := by
  have sound := kept.sound
  have busy : 0 < s.pool.work := by
    have positive := List.length_pos_of_mem waits.blocked
    rw [Pool.work]
    omega
  obtain ⟨event, own, can⟩ := Pool.exists_own sound.balanced (sound.workers ▸ staffed)
    (sound.capacity ▸ room) busy
  cases event with
  | submit | cancel | close => cases own
  | take other =>
    have free : 0 < s.pool.free := can.2
    rw [waits.full] at free
    exact absurd free (Nat.lt_irrefl 0)
  | enter other => exact ⟨.enter other, waits.other_enter kept can⟩
  | hook other => exact ⟨.hook other, waits.other_hook kept can⟩
  | begin => exact ⟨.begin, rfl, id, can⟩
  | finish other => exact ⟨.finish other (.error Pool.refusal), rfl, id, can⟩

/-- Nobody else takes the poll out of the hands of the thread. -/
theorem Waits.step (waits : s.Waits task) {event : Event} (other : s.Other event) :
    (s.step event).handing = some task ∧ task ∈ (s.step event).pool.blocked := by
  have blocked (event : Pool.Event PollTask) (own : event.isOwn = true)
      (stays : ∀ task, event ≠ .take task) : task ∈ (s.pool.step event).blocked := by
    rw [(s.pool.moves_step event).blocked_eq own stays]
    exact waits.blocked
  cases event with
  | start | terminate | tick | goOff | bring => cases other.own
  | proceed => exact absurd trivial other.apart
  | take later =>
    have free : 0 < s.pool.free := other.can.2
    rw [waits.full] at free
    exact absurd free (Nat.lt_irrefl 0)
  | enter later => exact ⟨waits.handing, blocked (.enter later) rfl nofun⟩
  | begin => exact ⟨waits.handing, blocked .begin rfl nofun⟩
  | hook later =>
    refine ⟨?_, ?_⟩
    · show (s.hook later).handing = some task
      unfold hook
      split <;> exact waits.handing
    · show task ∈ (s.hook later).pool.blocked
      rw [pool_hook]
      exact blocked (.hook later) rfl nofun
  | finish later result =>
    refine ⟨(s.finish_frame later result).1.trans waits.handing, ?_⟩
    show task ∈ (s.finish later result).pool.blocked
    rw [pool_finish]
    exact blocked (.finish later) rfl nofun
  | listen later =>
    have differ : s.handing ≠ some later := other.apart
    refine ⟨?_, ?_⟩
    · show (s.listen later).handing = some task
      rw [(listen_of_mem other.can).2, if_neg differ]
      exact waits.handing
    · show task ∈ (s.listen later).pool.blocked
      rw [(s.listen_frame later).1]
      exact waits.blocked

/-- Whatever happens without the callback thread either has let it go on or is not all that can
happen. -/
theorem Waits.relieved (waits : s.Waits task) (sane : Sane workers capacity s)
    (staffed : 0 < workers) (room : 0 < capacity) {events : List Event} (others : s.Others events) :
    (∃ before, before <+: events ∧ s.Relieves task before)
      ∨ ∃ next, (s.run events).Other next := by
  induction events generalizing s with
  | nil => exact .inr (waits.exists_other sane.kept staffed room)
  | cons event rest ih =>
    obtain ⟨first, others⟩ := others
    obtain ⟨handing, blocked⟩ := waits.step first
    by_cases full : (s.step event).pool.free = 0
    · obtain ⟨before, shorter, relieves⟩ | continued :=
        ih ⟨handing, blocked, full⟩ (sane.step event) others
      · refine .inl ⟨event :: before, (List.prefix_cons_inj event).mpr shorter, ?_⟩
        exact ⟨⟨first, relieves.others⟩, relieves.handing, relieves.can⟩
      · exact .inr continued
    · refine .inl ⟨[event], ⟨rest, rfl⟩, ⟨first, trivial⟩, handing, blocked, ?_⟩
      exact Nat.pos_of_ne_zero full

/-- The end of a poll lets the callback thread go on, at the latest when the poll's submitter has
come back. -/
theorem Waits.relieves_finish (waits : s.Waits task) (sane : Sane workers capacity s)
    {other : PollTask} (running : other ∈ s.pool.running) (result : PollResult) :
    ∃ rest, (rest = [] ∨ rest = [.hook other])
      ∧ s.Relieves task (.finish other result :: rest) := by
  have balanced := sane.kept.sound.balanced
  have first : s.Other (.finish other result) := ⟨rfl, id, running⟩
  obtain ⟨handing, blocked⟩ := waits.step first
  have pool : (s.step (.finish other result)).pool = s.pool.finish other :=
    s.pool_finish other result
  by_cases unhooked : other ∈ s.pool.unhooked
  · obtain ⟨spent, full, free⟩ := Pool.free_hook_finish balanced running unhooked
    have still : (s.step (.finish other result)).Waits task :=
      ⟨handing, blocked, by rw [pool, full]; exact waits.full⟩
    have second : (s.step (.finish other result)).Other (.hook other) :=
      still.other_hook (sane.step _).kept (.inl (pool ▸ spent))
    obtain ⟨handing, blocked⟩ := still.step second
    refine ⟨[.hook other], .inr rfl, ⟨first, second, trivial⟩, handing, blocked, ?_⟩
    show 0 < ((s.step (.finish other result)).hook other).pool.free
    rw [pool_hook, pool, free]
    exact Nat.succ_pos _
  · refine ⟨[], .inl rfl, ⟨first, trivial⟩, handing, blocked, ?_⟩
    show 0 < (s.step (.finish other result)).pool.free
    rw [pool, Pool.free_finish balanced running unhooked]
    exact Nat.succ_pos _

/-- If nobody else is in the middle of handing in a poll, and no worker is about to begin one, then
all workers are busy, and accepted polls hold all slots. -/
theorem Waits.busy (waits : s.Waits task) (kept : Kept workers capacity s.polls s.pool)
    (room : workers ≤ capacity) (settled : ∀ event, event.isPrompt = true → ¬ s.Other event) :
    s.pool.running.length = workers ∧ s.pool.unfinished.length = capacity := by
  have entering : s.pool.entering = [] := by
    rw [List.eq_nil_iff_forall_not_mem]
    exact fun other member => settled _ rfl (waits.other_enter kept member)
  have spent : s.pool.spent = [] := by
    rw [List.eq_nil_iff_forall_not_mem]
    exact fun other member => settled _ rfl (waits.other_hook kept (.inl member))
  have slots := kept.sound.balanced.slots
  rw [Pool.slots, Pool.inHand, entering, spent, waits.full, kept.sound.capacity] at slots
  have unfinished : s.pool.unfinished.length = capacity := by
    simpa using slots
  refine ⟨?_, unfinished⟩
  have few := kept.sound.lined.busy
  rw [kept.sound.workers] at few
  by_cases waiting : s.pool.waiting = []
  · rw [Pool.unfinished, waiting, List.nil_append] at unfinished
    omega
  · by_contra idle
    refine settled .begin rfl ⟨rfl, id, waiting, ?_⟩
    rw [kept.sound.workers]
    omega

/-- Once everybody else has taken the steps for which nobody has to wait, a slot is free or all
workers are busy. -/
theorem Waits.settles (waits : s.Waits task) (sane : Sane workers capacity s)
    (room : workers ≤ capacity) : ∃ events, (∀ event ∈ events, event.isPrompt = true)
      ∧ s.Others events ∧ ((s.run events).Can (.take task)
        ∨ (s.run events).pool.running.length = workers
          ∧ (s.run events).pool.unfinished.length = capacity) := by
  induction left : s.load using Nat.strongRecOn generalizing s with
  | ind load ih =>
    by_cases settled : ∃ event, event.isPrompt = true ∧ s.Other event
    · obtain ⟨event, prompt, other⟩ := settled
      obtain ⟨handing, blocked⟩ := waits.step other
      by_cases full : (s.step event).pool.free = 0
      · have less := load_step_lt other.own other.can fun proceed => other.apart (proceed ▸ trivial)
        obtain ⟨rest, prompts, others, settles⟩ :=
          ih (s.step event).load (left ▸ less) ⟨handing, blocked, full⟩ (sane.step event) rfl
        exact ⟨event :: rest, List.forall_mem_cons.mpr ⟨prompt, prompts⟩, ⟨other, others⟩, settles⟩
      · refine ⟨[event], ?_, ⟨other, trivial⟩, .inl ⟨blocked, Nat.pos_of_ne_zero full⟩⟩
        exact fun single member => List.mem_singleton.mp member ▸ prompt
    · refine ⟨[], nofun, trivial, .inr (waits.busy sane.kept room ?_)⟩
      exact fun event prompt other => settled ⟨event, prompt, other⟩

end Waiting

section Law

/-- What holds while the callback thread waits for a slot, in a fleet whose pool has so many workers
and room for so many polls beside those that they work on. -/
structure Relief (workers depth : Int) (s : Fleet) (task : PollTask) : Prop where
  full : (s.pool.unfinished.length + s.pool.inHand.length : Int) = workers + depth
  others : ∃ event, s.Other event
  /-- Unless somebody else is about to take a step for which nobody has to wait, all workers are
  busy. -/
  busy : (∀ event, event.isPrompt = true → ¬ s.Other event) →
    (s.pool.running.length : Int) = workers ∧ (s.pool.unfinished.length : Int) = workers + depth
  /-- Such steps come to an end, and by then a slot is free or all workers are busy. -/
  settles : ∃ events, (∀ event ∈ events, event.isPrompt = true) ∧ s.Others events
    ∧ ((s.run events).Can (.take task) ∨ ((s.run events).pool.running.length : Int) = workers
      ∧ ((s.run events).pool.unfinished.length : Int) = workers + depth)
  /-- The end of any poll frees a slot, at the latest with the next step of its own submitter. -/
  frees : ∀ other ∈ s.pool.running, ∀ result, ∃ rest, (rest = [] ∨ rest = [.hook other])
    ∧ s.Relieves task (.finish other result :: rest)
  /-- Whatever else happens, the thread can go on at last: it can already, or others can. -/
  goesOn : ∀ events, s.Others events →
    (∃ before, before <+: events ∧ s.Relieves task before) ∨ ∃ next, (s.run events).Other next
  bounded : ∀ events, s.Others events → events.length ≤ s.load

structure Progress (workers depth : Int) (s : Fleet) : Prop where
  /-- As long as there is anything to do something can happen by itself. -/
  moves : s.pool.unfinished ≠ [] ∨ s.pool.blocked ≠ [] ∨ s.thread.queue ≠ [] ∨ s.handing ≠ none →
    ∃ event, event.isOwn = true ∧ s.Can event
  /-- What can happen by itself is not idle. -/
  acts : ∀ event, event.isOwn = true → s.Can event → s.step event ≠ s
  /-- The callback thread takes the next step unless it waits for a slot. -/
  free : s.handing ≠ none ∨ s.chores ≠ [] ∨ s.thread.queue ≠ [] →
    (∃ event, event.isOwn = true ∧ s.ByThread event ∧ s.Can event) ∨ ∃ task, s.Waits task
  waits : ∀ task, s.Waits task → Relief workers depth s task

variable {workers capacity : Nat} {task : PollTask}

theorem Sane.relief (sane : Sane workers capacity s) {depth : Nat} (staffed : 0 < workers)
    (room : workers + depth = capacity) (waits : s.Waits task) : Relief workers depth s task where
  full := by
    have slots := sane.kept.sound.balanced.slots
    rw [Pool.slots, waits.full, sane.kept.sound.capacity] at slots
    omega
  others := waits.exists_other sane.kept staffed (by omega)
  busy := by
    intro settled
    obtain ⟨running, unfinished⟩ := waits.busy sane.kept (by omega) settled
    omega
  settles := by
    obtain ⟨events, prompts, others, free | ⟨running, unfinished⟩⟩ :=
      waits.settles sane (by omega)
    · exact ⟨events, prompts, others, .inl free⟩
    · exact ⟨events, prompts, others, .inr (by omega)⟩
  frees := fun other running result => waits.relieves_finish sane running result
  goesOn := fun events others => waits.relieved sane staffed (by omega) others
  bounded := fun events others => others.length_le

/-- The callback thread has a step to take, or waits for a slot for the poll that it is handing in.
-/
theorem Sane.free (sane : Sane workers capacity s)
    (busy : s.handing ≠ none ∨ s.chores ≠ [] ∨ s.thread.queue ≠ []) :
    (∃ event, event.isOwn = true ∧ s.ByThread event ∧ s.Can event) ∨ ∃ task, s.Waits task := by
  cases handing : s.handing with
  | none => exact .inl ⟨.proceed, rfl, trivial, handing, busy.resolve_left (absurd handing)⟩
  | some task =>
    obtain (blocked | entering | midway) | returning := sane.handing task handing
    · by_cases full : s.pool.free = 0
      · exact .inr ⟨task, handing, blocked, full⟩
      · exact .inl ⟨.take task, rfl, handing, blocked, Nat.pos_of_ne_zero full⟩
    · exact .inl ⟨.enter task, rfl, handing, entering⟩
    · exact .inl ⟨.hook task, rfl, handing, midway⟩
    · exact .inl ⟨.listen task, rfl, handing, returning⟩

/-- What the pool can do by itself the fleet can. -/
theorem exists_own_of_pool {event : Pool.Event PollTask} (own : event.isOwn = true)
    (can : s.pool.Can event) : ∃ event, event.isOwn = true ∧ s.Can event := by
  cases event with
  | submit | cancel | close => cases own
  | take task => exact ⟨.take task, rfl, can⟩
  | enter task => exact ⟨.enter task, rfl, can⟩
  | hook task => exact ⟨.hook task, rfl, can⟩
  | begin => exact ⟨.begin, rfl, can⟩
  | finish task => exact ⟨.finish task (.error Pool.refusal), rfl, can⟩

theorem Sane.progress (sane : Sane workers capacity s) {depth : Nat} (staffed : 0 < workers)
    (room : workers + depth = capacity) : Progress workers depth s where
  waits := fun task waits => sane.relief staffed room waits
  free := sane.free
  acts := fun _ own can => step_ne own can
  moves := by
    have sound := sane.kept.sound
    intro todo
    by_cases pooled : 0 < s.pool.work
    · obtain ⟨event, own, can⟩ := Pool.exists_own sound.balanced (sound.workers ▸ staffed)
        (by rw [sound.capacity]; omega) pooled
      exact exists_own_of_pool own can
    · have busy : s.handing ≠ none ∨ s.chores ≠ [] ∨ s.thread.queue ≠ [] := by
        rw [Pool.work] at pooled
        obtain unfinished | blocked | queue | handing := todo
        · have positive := List.length_pos_of_ne_nil unfinished
          rw [Pool.unfinished, List.length_append] at positive
          omega
        · have positive := List.length_pos_of_ne_nil blocked
          omega
        · exact .inr (.inr queue)
        · exact .inl handing
      obtain ⟨event, own, -, can⟩ | ⟨task, waits⟩ := sane.free busy
      · exact ⟨event, own, can⟩
      · obtain ⟨event, other⟩ := waits.exists_other sane.kept staffed (by omega)
        exact ⟨event, other.own, other.can⟩

/-- No fleet gets stuck, whatever happens to it and whatever its handlers do. -/
theorem progress_run (name : Text) {workers depth : Int} (staffed : 1 ≤ workers) (room : 0 ≤ depth)
    (requests : List Request) (clock : Seconds) (responses : List Response) :
    ∃ pool, Pool.ofSizes name workers depth = .ok pool
      ∧ ∀ events, Progress workers depth
        ((ofRequests requests pool clock responses).run events) := by
  obtain ⟨workers, rfl⟩ := Int.eq_ofNat_of_zero_le (Int.le_trans Int.one_nonneg staffed)
  obtain ⟨depth, rfl⟩ := Int.eq_ofNat_of_zero_le room
  refine ⟨_, by rw [Pool.ofSizes, if_neg (by omega), if_neg (by omega)], fun events => ?_⟩
  have sane := sane_ofRequests name workers (workers + depth) requests clock responses
  exact (sane.run events).progress (by omega) rfl

def twice : List Request :=
  List.replicate 2
    { txHash := "5c", recipientAddress := "49", txKey := "d0", serviceAddress := "node.example"
      tradeId := "7", amount := 1, tradeDate := .zero false, requiredConfirmations := 10
      firstRequest := 0 }

/-- With a single slot: the first verifier hears that the transfer is unknown so far, and when its
next poll is due, the second one has taken the slot. -/
def snarled : List Event :=
  [.start 0, .enter ⟨0, 0⟩, .begin, .hook ⟨0, 0⟩, .listen ⟨0, 0⟩,
    .finish ⟨0, 0⟩ (.ok (.outcome (.pending (.ofKind .txNotFound)))),
    .proceed, .proceed, .proceed, .goOff 0, .start 1, .enter ⟨1, 1⟩, .begin, .bring 0,
    .proceed, .proceed]

theorem progress_run_snarled : (1 : Int) ≤ 1 ∧ (0 : Int) ≤ 0 ∧
    ∃ pool, Pool.ofSizes "pool" 1 0 = .ok pool
      ∧ ((ofRequests twice pool 5 []).run snarled).pool.running = [⟨1, 1⟩]
      ∧ ((ofRequests twice pool 5 []).run snarled).Waits ⟨2, 0⟩
      ∧ Progress 1 0 ((ofRequests twice pool 5 []).run snarled) := by
  refine ⟨by decide, by decide, ?_⟩
  obtain ⟨pool, made, progress⟩ :=
    progress_run "pool" (show (1 : Int) ≤ 1 by decide) (show (0 : Int) ≤ 0 by decide) twice 5 []
  have idle : pool = { name := "pool", workers := 1, capacity := 1, free := 1 } :=
    (Except.ok.inj made).symm
  refine ⟨pool, made, ?_, ⟨?_, ?_, ?_⟩, progress snarled⟩
  all_goals
    rw [idle]
    decide +kernel

end Law

end TransferProof.Fleet
