import TransferProof.Proofs.Verification.Steps
import TransferProof.Verification.Rehearsal

/-!
# What handlers are told

Handlers that only listen change nothing but the history. If one of them fails on what it is told,
the callback ends there, and those that would have been told after it are told nothing.
-/

namespace TransferProof

def Observation.notice? : Observation → Option Notice
  | .reported message cause => some (.fault message cause)
  | .delivered outcome _ => some (.result outcome)
  | _ => none

/-- What handlers with a habit hear of what they are to be told: all up to the first on which one of
them fails. -/
def Habit.heard (habit : Habit) (time : Seconds) : List Notice → List Notice
  | [] => []
  | notice :: rest =>
    notice :: if habit (notice.observed time) = none then habit.heard time rest else []

theorem Habit.heard_subset (habit : Habit) (time : Seconds) (notices : List Notice) :
    habit.heard time notices ⊆ notices := by
  induction notices with
  | nil => exact List.Subset.refl _
  | cons notice rest ih =>
    rw [heard]
    refine List.cons_subset_cons _ ?_
    split
    · exact ih
    · exact List.nil_subset _

@[simp] theorem Habit.heard_singleton (habit : Habit) (time : Seconds) (notice : Notice) :
    habit.heard time [notice] = [notice] := by
  simp [heard]

/-- The handler of results is told after that of faults, unless the latter fails. -/
theorem Habit.heard_fault (habit : Habit) (time : Seconds) (message : Text) (cause : Fault)
    (outcome : Outcome) :
    habit.heard time [.fault message cause, .result outcome] =
      if habit (.reported message cause) = none then [.fault message cause, .result outcome]
      else [.fault message cause] := by
  rw [heard, heard_singleton, Notice.observed]
  split <;> rfl

namespace Verification

open Verifier

/-- What the handlers have been told, oldest first. -/
def told (s : Verification) : List Notice := (s.history.filterMap Observation.notice?).reverse

/-- The verification after its handlers have listened. -/
def hear (s : Verification) : List Notice → Verification
  | [] => s
  | notice :: rest => (s.observe (notice.observed s.clock)).hear rest

section Told

variable {s : Verification}

theorem mem_told {outcome : Outcome} :
    .result outcome ∈ s.told ↔ ∃ time, .delivered outcome time ∈ s.history := by
  rw [told, List.mem_reverse, List.mem_filterMap]
  constructor
  · rintro ⟨o, member, same⟩
    cases o with
    | delivered other time =>
      obtain rfl := Notice.result.inj (Option.some.inj same)
      exact ⟨time, member⟩
    | reported message cause => cases same
    | _ => cases same
  · rintro ⟨time, member⟩
    exact ⟨_, member, rfl⟩

theorem told_observe (s : Verification) (o : Observation) :
    (s.observe o).told = s.told ++ o.notice?.toList := by
  rw [told, told, observe]
  dsimp only
  rw [List.filterMap_cons]
  cases o.notice? <;> simp

/-- To listen changes nothing but the history. -/
theorem hear_eq (s : Verification) (notices : List Notice) :
    s.hear notices = { s with history := (s.hear notices).history } := by
  induction notices generalizing s with
  | nil => rfl
  | cons notice rest ih => exact ih _

theorem notice?_observed (notice : Notice) (time : Seconds) :
    (notice.observed time).notice? = some notice := by
  cases notice <;> rfl

theorem told_hear (s : Verification) (notices : List Notice) :
    (s.hear notices).told = s.told ++ notices := by
  induction notices generalizing s with
  | nil => simp [hear]
  | cons notice rest ih => simp [hear, ih, told_observe, notice?_observed]

/-- A decision tells nobody by itself; that is left to its notices. -/
theorem told_adopt (s : Verification) (d : Decision) : (s.adopt d).1.told = s.told := by
  refine carryOutAll_keeps (s := { s with verifier := d.verifier })
    (P := fun t => t.told = s.told) ?_ rfl
  intro t effect _ same
  cases effect with
  | submit =>
    rw [carryOut]
    split <;> exact same
  | _ => exact same

end Told

section Plans

variable {s : Verification} {habit : Habit}

theorem carryOut_planned (s : Verification) (effect : Effect) (onResult onFault : List Reaction) :
    (s.planned onResult onFault).carryOut effect =
      ((s.carryOut effect).1.planned onResult onFault, (s.carryOut effect).2) := by
  cases effect with
  | submit =>
    rw [carryOut, carryOut]
    cases accepts : s.poolOpen <;> simp [planned, accepts, observe]
  | _ => rfl

theorem carryOutAll_planned (s : Verification) (effects : List Effect)
    (onResult onFault : List Reaction) :
    (s.planned onResult onFault).carryOutAll effects =
      ((s.carryOutAll effects).1.planned onResult onFault, (s.carryOutAll effects).2) := by
  induction effects generalizing s with
  | nil => rfl
  | cons effect rest ih =>
    rw [carryOutAll, carryOutAll, carryOut_planned]
    cases s.carryOut effect with
    | mk t fault =>
      cases fault with
      | none => exact ih t
      | some fault => rfl

/-- Plans make no difference to what a decision does before anyone is told. -/
theorem adopt_planned (s : Verification) (d : Decision) (onResult onFault : List Reaction) :
    (s.planned onResult onFault).adopt d =
      ((s.adopt d).1.planned onResult onFault, (s.adopt d).2) :=
  carryOutAll_planned { s with verifier := d.verifier } d.effects onResult onFault

theorem tell_following (s : Verification) (notice : Notice) (rest : List Notice) :
    (s.following habit (notice :: rest)).tell notice =
      ((s.observe (notice.observed s.clock)).following habit rest,
        habit (notice.observed s.clock)) := by
  cases notice <;> rfl

/-- Handlers that follow their habit listen until one of them fails. -/
theorem tellAll_following (habit : Habit) (s : Verification) (notices : List Notice) :
    ∃ onResult onFault fault, (s.following habit notices).tellAll notices =
      ((s.hear (habit.heard s.clock notices)).planned onResult onFault, fault) := by
  induction notices generalizing s with
  | nil => exact ⟨_, _, _, rfl⟩
  | cons notice rest ih =>
    rw [tellAll, tell_following, Habit.heard]
    cases reacts : habit (notice.observed s.clock) with
    | none => exact ih (s.observe (notice.observed s.clock))
    | some fault => exact ⟨_, _, _, rfl⟩

/-- Where handlers are told something, nothing has failed before. -/
theorem adopt_fault_of_ruling (rest : List Callback) {callback : Callback} {d : Decision}
    (ruling : Ruling s.verifier s.clock s.fresh callback d) :
    ({ s with queue := rest }.adopt d).2 = none ∨ d.notices = [] := by
  cases ruling with
  | reopen opening => exact .inr opening.notices_eq_nil
  | drop | ignore => exact .inr rfl
  | wait => exact .inl rfl
  | conclude live ending records =>
    rw [adopt_conclude]
    exact .inl rfl

theorem enact_following (habit : Habit) {t : Verification} {d : Decision}
    (clock : (t.adopt d).1.clock = t.clock) (fine : (t.adopt d).2 = none ∨ d.notices = []) :
    ∃ onResult onFault fault, (t.following habit d.notices).enact d =
      (((t.adopt d).1.hear (habit.heard t.clock d.notices)).planned onResult onFault, fault) := by
  rw [enact, following, adopt_planned]
  cases failed : (t.adopt d).2 with
  | none =>
    obtain told := tellAll_following habit (t.adopt d).1 d.notices
    rwa [following, clock] at told
  | some fault =>
    have nobody := fine.resolve_left (by rw [failed]; exact Option.some_ne_none fault)
    rw [nobody]
    exact ⟨_, _, _, rfl⟩

/-- Plans come and go with a callback. -/
theorem planned_noting {t : Verification} (onResult onFault : List Reaction) (fault : Option Fault)
    (plans : t.onResult = s.onResult ∧ t.onFault = s.onFault) :
    (noting (t.planned onResult onFault, fault)).planned s.onResult s.onFault =
      noting (t, fault) := by
  rw [← plans.1, ← plans.2]
  cases fault <;> rfl

/-- The verification after a decision about its oldest callback, with handlers that follow their
habit. -/
theorem runNextBy_eq (habit : Habit) {callback : Callback} {rest : List Callback}
    (queued : s.queue = callback :: rest) :
    ∃ d fault, Ruling s.verifier s.clock s.fresh callback d
      ∧ s.runNextBy habit =
        noting (({ s with queue := rest }.adopt d).1.hear (habit.heard s.clock d.notices), fault) := by
  have ruling := ruling_run s.verifier s.clock s.fresh callback
  obtain ⟨onResult, onFault, fault, told⟩ := enact_following habit
    (adopt_clock { s with queue := rest } _) (adopt_fault_of_ruling rest ruling)
  refine ⟨s.verifier.run s.clock s.fresh callback, fault, ruling, ?_⟩
  have ran := runNext_eq (s := s.following habit (s.verifier.run s.clock s.fresh callback).notices)
    queued
  rw [runNextBy, queued]
  -- The handlers were given plans for this callback only; afterwards they have their own again.
  refine (congrArg (·.planned s.onResult s.onFault) (ran.trans (congrArg noting told))).trans ?_
  refine planned_noting onResult onFault fault ?_
  rw [hear_eq]
  exact adopt_plans { s with queue := rest } _

end Plans

end Verification

end TransferProof
