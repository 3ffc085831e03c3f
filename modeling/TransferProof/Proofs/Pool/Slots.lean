import TransferProof.Proofs.Pool.Moves
import Mathlib.Data.List.Perm.Basic

/-!
# The slots of a pool

Whatever is done to a pool, each of its slots is free or held by somebody, and none is given back
twice. No task is lost: it is blocked, about to be handed in, refused or accepted, and an accepted
one waits until it is begun, in its turn, or taken back.
-/

namespace TransferProof.Pool

variable {τ : Type} {p q : Pool τ}

section Balance

theorem slots_eq (p : Pool τ) :
    p.slots = p.free + p.waiting.length + p.running.length + p.entering.length + p.spent.length := by
  simp only [slots, unfinished, inHand, List.length_append]
  omega

/-- Of all slots, `owed` are in the hands of somebody who is about to give them back, and every
other one is free or held. None was given back that nobody held. -/
structure Balanced (owed : Nat) (p : Pool τ) : Prop where
  slots : p.slots + owed = p.capacity
  surplus : p.surplus = 0

theorem Balanced.of_slots {before after : Nat} (balanced : Balanced before p)
    (capacity : q.capacity = p.capacity) (surplus : q.surplus = p.surplus)
    (slots : q.slots + after = p.slots + before) : Balanced after q where
  slots := by rw [slots, balanced.slots, capacity]
  surplus := surplus.trans balanced.surplus

theorem Balanced.giveBack (balanced : Balanced 1 p) : Balanced 0 p.giveBack := by
  have room : p.free < p.capacity := by
    have slots := balanced.slots
    rw [slots_eq] at slots
    omega
  rw [Pool.giveBack, if_pos room]
  refine balanced.of_slots rfl rfl ?_
  simp only [slots_eq]
  omega

variable [DecidableEq τ]

theorem Balanced.release (balanced : Balanced 1 p) (task : τ) : Balanced 0 (p.release task) := by
  unfold Pool.release
  split
  · refine balanced.of_slots rfl rfl ?_
    simp only [slots_eq, List.length_append, List.length_singleton]
    omega
  · exact balanced.giveBack

/-- A task that is taken out of a list leaves one place. -/
theorem length_erase_add_one {tasks : List τ} {task : τ} (member : task ∈ tasks) :
    (tasks.erase task).length + 1 = tasks.length := by
  have positive := List.length_pos_of_mem member
  rw [List.length_erase_of_mem member]
  omega

theorem Balanced.moves (balanced : Balanced 0 p) {event : Event τ} (moves : p.Moves event q) :
    Balanced 0 q := by
  cases moves with
  | idle => exact balanced
  | block full => exact balanced.of_slots rfl rfl rfl
  | hold room =>
    refine balanced.of_slots rfl rfl ?_
    simp only [slots_eq, room, List.length_append, List.length_singleton]
    omega
  | take blocked room =>
    refine balanced.of_slots rfl rfl ?_
    simp only [slots_eq, List.length_append, List.length_singleton]
    omega
  | refuse entering closed =>
    have left := length_erase_add_one entering
    apply Balanced.giveBack
    refine balanced.of_slots rfl rfl ?_
    simp only [slots_eq]
    omega
  | accept entering opened =>
    have left := length_erase_add_one entering
    refine balanced.of_slots rfl rfl ?_
    simp only [slots_eq, List.length_append, List.length_singleton]
    omega
  | leave spent =>
    have left := length_erase_add_one spent
    apply Balanced.giveBack
    refine balanced.of_slots rfl rfl ?_
    simp only [slots_eq]
    omega
  | hook unhooked unspent => exact balanced.of_slots rfl rfl rfl
  | begin first idle =>
    refine balanced.of_slots rfl rfl ?_
    simp only [slots_eq, first, List.length_cons, List.length_append, List.length_nil]
    omega
  | finish running =>
    have left := length_erase_add_one running
    apply Balanced.release
    refine balanced.of_slots rfl rfl ?_
    simp only [slots_eq]
    omega
  | cancel waiting =>
    have left := length_erase_add_one waiting
    apply Balanced.release
    refine balanced.of_slots rfl rfl ?_
    simp only [slots_eq]
    omega
  | close => exact balanced.of_slots rfl rfl rfl

end Balance

section Tasks

variable [DecidableEq τ]

/-- What is taken from one list and put at the end of another is in the two of them as before. -/
theorem erase_append_concat_perm {source : List τ} {task : τ} (member : task ∈ source)
    (target : List τ) :
    (source.erase task ++ (target ++ [task])).Perm (source ++ target) := by
  have back : (source.erase task ++ (target ++ [task])).Perm (task :: source.erase task ++ target) := by
    rw [← List.append_assoc]
    exact List.perm_append_singleton task _
  exact back.trans ((List.perm_cons_erase member).symm.append_right target)

omit [DecidableEq τ] in
/-- It does not matter to which of two lists a task is added. -/
theorem concat_append_perm (front back : List τ) (task : τ) :
    (front ++ [task] ++ back).Perm (front ++ back ++ [task]) := by
  rw [List.append_assoc, List.append_assoc]
  exact List.perm_append_comm.append_left front

/-- Accepted tasks are begun in the order in which they were accepted, but for those that were taken
back, and never more at a time than there are workers. -/
structure Lined (p : Pool τ) : Prop where
  order : (p.begun ++ p.waiting).Sublist p.accepted
  whole : (p.begun ++ (p.waiting ++ p.cancelled)).Perm p.accepted
  begun : (p.running ++ p.finished).Perm p.begun
  busy : p.running.length ≤ p.workers

omit [DecidableEq τ] in
theorem Lined.giveBack (lined : Lined p) : Lined p.giveBack := by
  obtain ⟨free, surplus, given⟩ := p.giveBack_eq
  rw [given]
  exact { lined with }

theorem Lined.release (lined : Lined p) (task : τ) : Lined (p.release task) := by
  obtain ⟨free, surplus, unhooked, spent, given⟩ := p.release_eq task
  rw [given]
  exact { lined with }

theorem Lined.moves (lined : Lined p) {event : Event τ} (moves : p.Moves event q) : Lined q := by
  cases moves with
  | idle => exact lined
  | refuse entering closed => exact Lined.giveBack { lined with }
  | @accept task entering opened =>
    refine ⟨?_, ?_, lined.begun, lined.busy⟩
    · rw [← List.append_assoc]
      exact lined.order.append (List.Sublist.refl _)
    · have moved := (concat_append_perm p.waiting p.cancelled task).append_left p.begun
      rw [← List.append_assoc p.begun _ [task]] at moved
      exact moved.trans (lined.whole.append_right [task])
  | leave spent => exact Lined.giveBack { lined with }
  | @begin task rest first idle =>
    have order := lined.order
    have whole := lined.whole
    rw [first] at order whole
    refine ⟨?_, ?_, ?_, ?_⟩
    · simpa using order
    · simpa using whole
    · exact (concat_append_perm _ _ task).trans (lined.begun.append_right [task])
    · rw [List.length_append]
      exact idle
  | finish running =>
    apply Lined.release
    refine ⟨lined.order, lined.whole, ?_, ?_⟩
    · exact (erase_append_concat_perm running p.finished).trans lined.begun
    · exact Nat.le_trans List.length_erase_le lined.busy
  | cancel waiting =>
    apply Lined.release
    refine ⟨?_, ?_, lined.begun, lined.busy⟩
    · exact (List.erase_sublist.append_left _).trans lined.order
    · exact ((erase_append_concat_perm waiting p.cancelled).append_left p.begun).trans lined.whole
  | _ => exact { lined with }

end Tasks

section Submitted

variable [DecidableEq τ]

def submitted (p : Pool τ) : List τ := p.blocked ++ (p.entering ++ (p.refused ++ p.accepted))

def Event.brings : Event τ → List τ
  | .submit task => [task]
  | _ => []

omit [DecidableEq τ] in
theorem submitted_giveBack (p : Pool τ) : p.giveBack.submitted = p.submitted := by
  obtain ⟨free, surplus, given⟩ := p.giveBack_eq
  rw [given]
  rfl

theorem submitted_release (p : Pool τ) (task : τ) : (p.release task).submitted = p.submitted := by
  obtain ⟨free, surplus, unhooked, spent, given⟩ := p.release_eq task
  rw [given]
  rfl

/-- A task that was submitted stays so, and each event brings only its own. -/
theorem Moves.submitted_perm {event : Event τ} (moves : p.Moves event q) :
    q.submitted.Perm (event.brings ++ p.submitted) := by
  cases moves with
  | idle cannot =>
    cases event with
    | submit task => exact absurd trivial cannot
    | _ => rfl
  | block full => simp [submitted, Event.brings]
  | @hold task free room =>
    have moved : (p.blocked ++ p.entering ++ task :: (p.refused ++ p.accepted)).Perm
        (task :: (p.blocked ++ p.entering ++ (p.refused ++ p.accepted))) := List.perm_middle
    simpa [submitted, Event.brings] using moved
  | take blocked room =>
    have moved := erase_append_concat_perm blocked p.entering
    simpa [submitted, Event.brings] using moved.append_right (p.refused ++ p.accepted)
  | refuse entering closed =>
    have moved := erase_append_concat_perm entering p.refused
    rw [submitted_giveBack]
    simpa [submitted, Event.brings] using (moved.append_right p.accepted).append_left p.blocked
  | accept entering opened =>
    have moved := erase_append_concat_perm entering (p.refused ++ p.accepted)
    simpa [submitted, Event.brings] using moved.append_left p.blocked
  | leave spent =>
    rw [submitted_giveBack]
    rfl
  | finish running =>
    rw [submitted_release]
    rfl
  | cancel waiting =>
    rw [submitted_release]
    rfl
  | _ => rfl

theorem submitted_step (p : Pool τ) (event : Event τ) :
    (p.step event).submitted.Perm (event.brings ++ p.submitted) :=
  (p.moves_step event).submitted_perm

end Submitted

section Frame

/-- What only closing the pool changes: its sizes, whether it is closed, and, if it is, what it has
accepted. -/
structure Alike (p q : Pool τ) : Prop where
  workers : q.workers = p.workers
  capacity : q.capacity = p.capacity
  closed : q.closed = p.closed
  accepted : p.closed = true → q.accepted = p.accepted

theorem Alike.giveBack (alike : Alike p q) : Alike p q.giveBack := by
  obtain ⟨free, surplus, given⟩ := q.giveBack_eq
  rw [given]
  exact { alike with }

variable [DecidableEq τ]

theorem Alike.release (alike : Alike p q) (task : τ) : Alike p (q.release task) := by
  obtain ⟨free, surplus, unhooked, spent, given⟩ := q.release_eq task
  rw [given]
  exact { alike with }

theorem Moves.alike {event : Event τ} (moves : p.Moves event q) (other : event ≠ .close) :
    Alike p q := by
  cases moves with
  | refuse entering closed =>
    apply Alike.giveBack
    exact ⟨rfl, rfl, rfl, fun _ => rfl⟩
  | accept entering opened =>
    refine ⟨rfl, rfl, rfl, fun closed => ?_⟩
    rw [opened] at closed
    cases closed
  | leave spent =>
    apply Alike.giveBack
    exact ⟨rfl, rfl, rfl, fun _ => rfl⟩
  | finish running =>
    apply Alike.release
    exact ⟨rfl, rfl, rfl, fun _ => rfl⟩
  | cancel waiting =>
    apply Alike.release
    exact ⟨rfl, rfl, rfl, fun _ => rfl⟩
  | close => exact absurd rfl other
  | _ => exact ⟨rfl, rfl, rfl, fun _ => rfl⟩

theorem alike_step (p : Pool τ) {event : Event τ} (other : event ≠ .close) :
    Alike p (p.step event) := (p.moves_step event).alike other

/-- A closed pool stays closed and accepts nothing more. -/
theorem closed_step (closed : p.closed = true) (event : Event τ) :
    (p.step event).closed = true ∧ (p.step event).accepted = p.accepted := by
  by_cases closes : event = .close
  · subst closes
    exact ⟨rfl, rfl⟩
  · have alike := alike_step p closes
    exact ⟨alike.closed.trans closed, alike.accepted closed⟩

/-- No step changes the sizes of a pool. -/
theorem sizes_step (p : Pool τ) (event : Event τ) :
    (p.step event).workers = p.workers ∧ (p.step event).capacity = p.capacity := by
  by_cases closes : event = .close
  · subst closes
    exact ⟨rfl, rfl⟩
  · have alike := alike_step p closes
    exact ⟨alike.workers, alike.capacity⟩

end Frame

section Sound

variable [DecidableEq τ]

/-- What holds of a pool with so many workers and so many slots, whatever was done to it. -/
structure Sound (workers capacity : Nat) (p : Pool τ) : Prop where
  workers : p.workers = workers
  capacity : p.capacity = capacity
  balanced : Balanced 0 p
  lined : Lined p

theorem Sound.step {workers capacity : Nat} (sound : Sound workers capacity p)
    (event : Event τ) : Sound workers capacity (p.step event) where
  workers := (sizes_step p event).1.trans sound.workers
  capacity := (sizes_step p event).2.trans sound.capacity
  balanced := sound.balanced.moves (p.moves_step event)
  lined := sound.lined.moves (p.moves_step event)

theorem Sound.run {workers capacity : Nat} (sound : Sound workers capacity p)
    (events : List (Event τ)) : Sound workers capacity (p.run events) := by
  induction events generalizing p with
  | nil => exact sound
  | cons event rest ih => exact ih (sound.step event)

omit [DecidableEq τ] in
theorem sound_idle (name : Text) (workers capacity : Nat) :
    Sound workers capacity
      ({ name := name, workers := workers, capacity := capacity, free := capacity } : Pool τ) where
  workers := rfl
  capacity := rfl
  balanced := ⟨rfl, rfl⟩
  lined := ⟨List.Sublist.refl _, List.Perm.refl _, List.Perm.refl _, Nat.zero_le _⟩

end Sound

end TransferProof.Pool
