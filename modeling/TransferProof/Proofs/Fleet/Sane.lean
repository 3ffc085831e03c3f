import TransferProof.Fleet
import TransferProof.Proofs.Pool.Midway

/-!
# What holds of every fleet

The pool of a fleet stays open, and its polls have numbers of their own. A poll that the callback
thread is handing in is on its way, and the thread is the one to take it further.
-/

namespace TransferProof.Fleet

variable {s : Fleet}

section Steps

/-- What a submitter does last does not concern the pool, and what it does before is the pool's. -/
theorem pool_hook (s : Fleet) (task : PollTask) : (s.hook task).pool = s.pool.hook task := by
  unfold hook
  split
  · rfl
  case isFalse cannot =>
    have same : s.pool.step (.hook task) = s.pool := Pool.step_of_not_can cannot
    exact same.symm

theorem pool_finish (s : Fleet) (task : PollTask) (result : PollResult) :
    (s.finish task result).pool = s.pool.finish task := by
  unfold finish
  split
  · dsimp only
    split <;> rfl
  case isFalse cannot =>
    have same : s.pool.step (.finish task) = s.pool := Pool.step_of_not_can cannot
    exact same.symm

/-- A poll that ends is nobody's step but its worker's. -/
theorem finish_frame (s : Fleet) (task : PollTask) (result : PollResult) :
    (s.finish task result).handing = s.handing ∧ (s.finish task result).returning = s.returning
      ∧ (s.finish task result).polls = s.polls := by
  unfold finish
  split
  · dsimp only
    split <;> exact ⟨rfl, rfl, rfl⟩
  · exact ⟨rfl, rfl, rfl⟩

theorem listen_frame (s : Fleet) (task : PollTask) :
    (s.listen task).pool = s.pool ∧ (s.listen task).polls = s.polls := by
  unfold listen
  split
  · dsimp only
    split <;> exact ⟨rfl, rfl⟩
  · exact ⟨rfl, rfl⟩

theorem listen_of_mem {task : PollTask} (member : task ∈ s.returning) :
    (s.listen task).returning = s.returning.erase task
      ∧ (s.listen task).handing = if s.handing = some task then none else s.handing := by
  rw [listen, if_pos member]
  dsimp only
  split <;> exact ⟨rfl, rfl⟩

end Steps

section Sane

structure Kept (workers capacity polls : Nat) (p : Pool PollTask) : Prop where
  sound : Pool.Sound workers capacity p
  opened : p.closed = false
  pledged : p.Pledged
  /-- Every poll has a number of its own, and the next one will have a new one. -/
  different : p.submitted.Nodup
  fresh : ∀ task ∈ p.submitted, task.id < polls

variable {workers capacity polls : Nat} {p : Pool PollTask}

theorem Kept.step (kept : Kept workers capacity polls p) {event : Pool.Event PollTask}
    (own : event.isOwn = true) : Kept workers capacity polls (p.step event) := by
  have stays : event ≠ .close := by
    rintro rfl
    cases own
  have nothing : event.brings = [] := by
    cases event <;> first | rfl | cases own
  have same : (p.step event).submitted.Perm p.submitted := by
    have brought := p.submitted_step event
    rwa [nothing] at brought
  exact {
    sound := kept.sound.step event
    opened := (Pool.alike_step p stays).closed.trans kept.opened
    pledged := kept.pledged.moves (p.moves_step event)
    different := same.nodup_iff.mpr kept.different
    fresh := fun task member => kept.fresh task (same.mem_iff.mp member) }

theorem Kept.submit (kept : Kept workers capacity polls p) (verifier : Nat) :
    Kept workers capacity (polls + 1) (p.submit ⟨polls, verifier⟩) := by
  have brought := p.submitted_step (.submit ⟨polls, verifier⟩)
  have alike : Pool.Alike p (p.step (.submit ⟨polls, verifier⟩)) := Pool.alike_step p nofun
  refine {
    sound := kept.sound.step (.submit _)
    opened := alike.closed.trans kept.opened
    pledged := kept.pledged.moves (p.moves_step (.submit _))
    different := brought.nodup_iff.mpr (List.nodup_cons.mpr ⟨?_, kept.different⟩)
    fresh := ?_ }
  · intro member
    exact Nat.lt_irrefl _ (kept.fresh _ member)
  · intro task member
    obtain rfl | before := List.mem_cons.mp (brought.mem_iff.mp member)
    · exact Nat.lt_succ_self _
    · exact Nat.lt_succ_of_lt (kept.fresh task before)

/-- What holds of a fleet in any state: the poll that the callback thread is handing in is on its
way. -/
structure Sane (workers capacity : Nat) (s : Fleet) : Prop where
  kept : Kept workers capacity s.polls s.pool
  handing : ∀ task, s.handing = some task → s.pool.Midway task ∨ task ∈ s.returning

theorem Sane.work (sane : Sane workers capacity s) {event : Pool.Event PollTask}
    (own : event.isOwn = true) (other : ∀ task, event ≠ .hook task) :
    Sane workers capacity (s.work event) where
  kept := sane.kept.step own
  handing := fun task handing =>
    (sane.handing task handing).imp_left fun midway =>
      midway.moves sane.kept.opened (s.pool.moves_step event) (other task)

theorem Sane.carryOut (sane : Sane workers capacity s) (verifier : Nat) (effect : Effect) :
    Sane workers capacity (s.carryOut verifier effect) := by
  cases effect with
  | log record => exact sane
  | submit =>
    refine ⟨sane.kept.submit verifier, fun task handing => ?_⟩
    exact (sane.handing task handing).imp_left fun midway =>
      midway.moves sane.kept.opened (s.pool.moves_step (.submit _)) nofun
  | enqueue callback => exact { sane with }
  | arm timer =>
    rw [Fleet.carryOut]
    split <;> exact { sane with }
  | cancel timer => exact { sane with }

theorem Sane.obey (sane : Sane workers capacity s) (verifier : Nat) (d : Decision) :
    Sane workers capacity (s.obey verifier d) := by
  have carried (effects : List Effect) : ∀ {s : Fleet}, Sane workers capacity s →
      Sane workers capacity (effects.foldl (fun s effect => s.carryOut verifier effect) s) := by
    induction effects with
    | nil => exact fun sane => sane
    | cons effect rest ih => exact fun sane => ih (sane.carryOut verifier effect)
  exact carried d.effects { sane with }

theorem Sane.perform (sane : Sane workers capacity s) (chore : Chore) :
    Sane workers capacity (s.perform chore) := by
  cases chore with
  | effect verifier effect =>
    have carried := sane.carryOut verifier effect
    refine ⟨carried.kept, fun task handing => ?_⟩
    cases effect with
    | submit =>
      obtain rfl := Option.some.inj handing
      exact .inl (Pool.midway_submit_self s.pool _)
    | log record => exact sane.handing task handing
    | enqueue callback => exact sane.handing task handing
    | arm timer => exact carried.handing task (by
        rw [Fleet.carryOut]
        split <;> exact handing)
    | cancel timer => exact sane.handing task handing
  | tell verifier notice => exact { sane with }
  | move verifier move =>
    show Sane workers capacity (s.move verifier move)
    unfold Fleet.move
    split <;> exact { sane with }
  | fail fault => exact { sane with }

theorem Sane.proceed (sane : Sane workers capacity s) : Sane workers capacity s.proceed := by
  unfold Fleet.proceed
  split
  case h_1 => exact sane
  case h_2 chore rest none chores =>
    apply Sane.perform
    exact { sane with }
  case h_3 none chores =>
    unfold runNext
    split
    · exact sane
    · dsimp only
      split <;> exact { sane with }

theorem Sane.hook (sane : Sane workers capacity s) (task : PollTask) :
    Sane workers capacity (s.hook task) := by
  unfold Fleet.hook
  split
  · have kept : Kept workers capacity s.polls (s.pool.step (.hook task)) := sane.kept.step rfl
    refine ⟨kept, fun other handing => ?_⟩
    by_cases same : other = task
    · exact .inr (List.mem_append_right _ (List.mem_singleton.mpr same))
    · refine (sane.handing other handing).imp (fun midway => ?_) (List.mem_append_left _)
      refine midway.moves sane.kept.opened (s.pool.moves_step (.hook task)) fun again => ?_
      exact same (Pool.Event.hook.inj again).symm
  · exact sane

theorem Sane.listen (sane : Sane workers capacity s) (task : PollTask) :
    Sane workers capacity (s.listen task) := by
  by_cases member : task ∈ s.returning
  · obtain ⟨pool, polls⟩ := s.listen_frame task
    obtain ⟨returning, handing⟩ := listen_of_mem member
    refine ⟨by rw [pool, polls]; exact sane.kept, fun other handed => ?_⟩
    rw [handing] at handed
    split at handed
    · cases handed
    case isFalse differ =>
      have apart : other ≠ task := fun same => differ (same ▸ handed)
      rw [pool, returning, List.mem_erase_of_ne apart]
      exact sane.handing other handed
  · rw [Fleet.listen, if_neg member]
    exact sane

theorem Sane.finish (sane : Sane workers capacity s) (task : PollTask) (result : PollResult) :
    Sane workers capacity (s.finish task result) := by
  have worked : Sane workers capacity (s.work (.finish task)) := sane.work rfl nofun
  obtain ⟨handing, returning, polls⟩ := s.finish_frame task result
  constructor
  · rw [pool_finish, polls]
    exact worked.kept
  · rw [pool_finish, handing, returning]
    exact worked.handing

theorem Sane.step (sane : Sane workers capacity s) (event : Event) :
    Sane workers capacity (s.step event) := by
  cases event with
  | start verifier =>
    rw [Fleet.step, Fleet.start]
    split
    · exact sane.obey verifier _
    · exact sane
  | terminate verifier =>
    rw [Fleet.step, Fleet.terminate]
    split
    · exact sane.obey verifier _
    · exact sane
  | tick time => exact { sane with }
  | goOff timer => exact { sane with }
  | bring timer => exact { sane with }
  | take task => exact sane.work rfl nofun
  | enter task => exact sane.work rfl nofun
  | hook task => exact sane.hook task
  | listen task => exact sane.listen task
  | begin => exact sane.work rfl nofun
  | finish task result => exact sane.finish task result
  | proceed => exact sane.proceed

theorem Sane.run (sane : Sane workers capacity s) (events : List Event) :
    Sane workers capacity (s.run events) := by
  induction events generalizing s with
  | nil => exact sane
  | cons event rest ih => exact ih (sane.step event)

/-- A fleet is sane before anything has happened. -/
theorem sane_ofRequests (name : Text) (workers capacity : Nat) (requests : List Request)
    (clock : Seconds) (responses : List Response) :
    Sane workers capacity (ofRequests requests
      { name := name, workers := workers, capacity := capacity, free := capacity } clock
      responses) where
  kept := {
    sound := Pool.sound_idle name workers capacity
    opened := rfl
    pledged := nofun
    different := List.nodup_nil
    fresh := nofun }
  handing := nofun

end Sane

end TransferProof.Fleet
