import TransferProof.Proofs.Pool.Rest

/-!
# Submitters in the middle of handing in

From the moment a submitter asks for a slot until it comes back, its task is in one of four places:
it is blocked, about to be handed in, accepted without the submitter having asked for the slot to be
given back, or ended before that. No step of an open pool loses it, and only the submitter's own
last step lets it go. Tasks that are known by a number of their own are in one place at a time.
-/

namespace TransferProof.Pool

variable {τ : Type} [DecidableEq τ] {p q : Pool τ} {task : τ}

section Midway

def Midway (p : Pool τ) (task : τ) : Prop :=
  task ∈ p.blocked ∨ task ∈ p.entering ∨ task ∈ p.spent ∨ task ∈ p.unhooked

theorem mem_erase_or_concat {source : List τ} (member : task ∈ source) (target : List τ)
    (other : τ) : task ∈ source.erase other ∨ task ∈ target ++ [other] := by
  by_cases same : task = other
  · subst same
    exact .inr List.mem_concat_self
  · exact .inl ((List.mem_erase_of_ne same).mpr member)

omit [DecidableEq τ] in
theorem midway_submit_self (p : Pool τ) (task : τ) : (p.submit task).Midway task := by
  unfold submit
  split
  · exact .inl List.mem_concat_self
  · exact .inr (.inl List.mem_concat_self)

omit [DecidableEq τ] in
theorem Midway.giveBack (midway : p.Midway task) : p.giveBack.Midway task := by
  obtain ⟨free, surplus, given⟩ := p.giveBack_eq
  rw [given]
  exact midway

theorem Midway.release (midway : p.Midway task) (other : τ) : (p.release other).Midway task := by
  unfold Pool.release
  split
  · obtain blocked | entering | spent | unhooked := midway
    · exact .inl blocked
    · exact .inr (.inl entering)
    · exact .inr (.inr (.inl (List.mem_append_left _ spent)))
    · exact .inr (.inr (mem_erase_or_concat unhooked p.spent other).symm)
  · exact midway.giveBack

/-- Whatever else happens, a submitter stays where it is or goes on by one place. -/
theorem Midway.moves (midway : p.Midway task) (opened : p.closed = false) {event : Event τ}
    (moves : p.Moves event q) (other : event ≠ .hook task) : q.Midway task := by
  cases moves with
  | block full => exact midway.imp_left (List.mem_append_left _)
  | hold room => exact midway.imp_right (Or.imp_left (List.mem_append_left _))
  | @take t blocked room =>
    obtain blocked | entering | later := midway
    · exact (mem_erase_or_concat blocked p.entering t).imp_right .inl
    · exact .inr (.inl (List.mem_append_left _ entering))
    · exact .inr (.inr later)
  | refuse entering closed =>
    rw [opened] at closed
    cases closed
  | @accept t entering opened =>
    obtain blocked | entering | spent | unhooked := midway
    · exact .inl blocked
    · obtain stays | enters := mem_erase_or_concat entering p.unhooked t
      · exact .inr (.inl stays)
      · exact .inr (.inr (.inr enters))
    · exact .inr (.inr (.inl spent))
    · exact .inr (.inr (.inr (List.mem_append_left _ unhooked)))
  | @leave t spent =>
    have differ : task ≠ t := fun same => other (congrArg Event.hook same.symm)
    apply Midway.giveBack
    exact midway.imp_right (Or.imp_right (Or.imp_left (List.mem_erase_of_ne differ).mpr))
  | @hook t unhooked unspent =>
    have differ : task ≠ t := fun same => other (congrArg Event.hook same.symm)
    exact midway.imp_right (Or.imp_right (Or.imp_right (List.mem_erase_of_ne differ).mpr))
  | finish running =>
    apply Midway.release
    exact midway
  | cancel waiting =>
    apply Midway.release
    exact midway
  | _ => exact midway

end Midway

section Pledged

/-- A submitter that is about to ask for a slot to be given back has seen its task accepted. -/
def Pledged (p : Pool τ) : Prop := ∀ task, task ∈ p.spent ∨ task ∈ p.unhooked → task ∈ p.accepted

omit [DecidableEq τ] in
theorem Pledged.giveBack (pledged : Pledged p) : Pledged p.giveBack := by
  obtain ⟨free, surplus, given⟩ := p.giveBack_eq
  rw [given]
  exact pledged

theorem Pledged.release (pledged : Pledged p) (task : τ) : Pledged (p.release task) := by
  unfold Pool.release
  split
  case isTrue member =>
    rintro other (spent | unhooked)
    · obtain spent | same := List.mem_append.mp spent
      · exact pledged other (.inl spent)
      · exact pledged other (.inr (List.mem_singleton.mp same ▸ member))
    · exact pledged other (.inr (List.mem_of_mem_erase unhooked))
  case isFalse => exact pledged.giveBack

theorem Pledged.moves (pledged : Pledged p) {event : Event τ} (moves : p.Moves event q) :
    Pledged q := by
  cases moves with
  | refuse entering closed => exact Pledged.giveBack pledged
  | accept entering opened =>
    rintro other (spent | unhooked)
    · exact List.mem_append_left _ (pledged other (.inl spent))
    · obtain unhooked | same := List.mem_append.mp unhooked
      · exact List.mem_append_left _ (pledged other (.inr unhooked))
      · exact List.mem_append_right _ same
  | leave spent =>
    apply Pledged.giveBack
    exact fun other places => pledged other (places.imp_left List.mem_of_mem_erase)
  | hook unhooked unspent =>
    exact fun other places => pledged other (places.imp_right List.mem_of_mem_erase)
  | finish running =>
    apply Pledged.release
    exact pledged
  | cancel waiting =>
    apply Pledged.release
    exact pledged
  | _ => exact pledged

omit [DecidableEq τ] in
/-- A blocked submitter is at no other place, if all tasks are different. -/
theorem ne_of_mem_blocked (pledged : Pledged p) (different : p.submitted.Nodup)
    (blocked : task ∈ p.blocked) {other : τ}
    (elsewhere : other ∈ p.entering ∨ other ∈ p.spent ∨ other ∈ p.unhooked) : other ≠ task := by
  rintro rfl
  obtain ⟨-, -, disjoint⟩ := List.nodup_append.mp different
  refine disjoint other blocked other ?_ rfl
  obtain entering | places := elsewhere
  · exact List.mem_append_left _ entering
  · exact List.mem_append_right _ (List.mem_append_right _ (pledged other places))

end Pledged

section Freed

omit [DecidableEq τ] in
theorem blocked_giveBack (p : Pool τ) : p.giveBack.blocked = p.blocked := by
  obtain ⟨free, surplus, given⟩ := p.giveBack_eq
  rw [given]

theorem blocked_release (p : Pool τ) (task : τ) : (p.release task).blocked = p.blocked := by
  obtain ⟨free, surplus, unhooked, spent, given⟩ := p.release_eq task
  rw [given]

/-- Only a submitter that asks for a slot or takes one changes who is blocked. -/
theorem Moves.blocked_eq {event : Event τ} (moves : p.Moves event q) (own : event.isOwn = true)
    (other : ∀ task, event ≠ .take task) : q.blocked = p.blocked := by
  cases moves with
  | block | hold | cancel | close => cases own
  | take blocked room => exact absurd rfl (other _)
  | refuse entering closed => rw [blocked_giveBack]
  | leave spent => rw [blocked_giveBack]
  | finish running => rw [blocked_release]
  | _ => rfl

omit [DecidableEq τ] in
theorem free_giveBack (room : p.free < p.capacity) : p.giveBack.free = p.free + 1 := by
  rw [giveBack, if_pos room]

/-- A task that ends frees its slot at once, if its submitter has come back. -/
theorem free_finish (balanced : Balanced 0 p) (running : task ∈ p.running)
    (hooked : task ∉ p.unhooked) : (p.finish task).free = p.free + 1 := by
  rw [finish, if_pos running, release, if_neg hooked]
  apply free_giveBack
  have slots := balanced.slots
  have positive := List.length_pos_of_mem running
  rw [slots_eq] at slots
  dsimp only
  omega

/-- A task that ends before its submitter has come back frees its slot when the submitter does. -/
theorem free_hook_finish (balanced : Balanced 0 p) (running : task ∈ p.running)
    (unhooked : task ∈ p.unhooked) :
    task ∈ (p.finish task).spent ∧ (p.finish task).free = p.free
      ∧ ((p.finish task).hook task).free = p.free + 1 := by
  have ended : p.finish task = { p with
      running := p.running.erase task
      finished := p.finished ++ [task]
      unhooked := p.unhooked.erase task
      spent := p.spent ++ [task] } := by
    rw [finish, if_pos running, release, if_pos unhooked]
  have spent : task ∈ (p.finish task).spent := by
    rw [ended]
    exact List.mem_concat_self
  refine ⟨spent, by rw [ended], ?_⟩
  have slots := balanced.slots
  have positive := List.length_pos_of_mem running
  rw [slots_eq] at slots
  rw [hook, if_pos spent, ended]
  apply free_giveBack
  dsimp only
  omega

end Freed

end TransferProof.Pool
