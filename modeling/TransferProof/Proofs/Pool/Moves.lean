import TransferProof.Pool

/-!
# The moves of a pool

A step of a pool is one of eleven moves, each given with the conditions on which it is made, or it
cannot happen and changes nothing. What holds of pools is proved by cases on the moves and not by
unfolding the steps. A move in which a slot is given back, or a task ends, is said in those terms:
`giveBack_eq` and `release_eq` say what they leave alone.
-/

namespace TransferProof.Pool

variable {τ : Type}

def Can (p : Pool τ) : Event τ → Prop
  | .submit _ => True
  | .take task => task ∈ p.blocked ∧ 0 < p.free
  | .enter task => task ∈ p.entering
  | .hook task => task ∈ p.spent ∨ task ∈ p.unhooked
  | .begin => p.waiting ≠ [] ∧ p.running.length < p.workers
  | .finish task => task ∈ p.running
  | .cancel task => task ∈ p.waiting
  | .close => True

/-- A slot that is given back changes nothing about the tasks. -/
theorem giveBack_eq (p : Pool τ) :
    ∃ free surplus, p.giveBack = { p with free := free, surplus := surplus } := by
  unfold giveBack
  split
  · exact ⟨_, _, rfl⟩
  · exact ⟨_, _, rfl⟩

variable [DecidableEq τ]

instance (p : Pool τ) (event : Event τ) : Decidable (p.Can event) := by
  cases event <;> unfold Can <;> infer_instance

/-- What a task leaves that has ended concerns its slot alone. -/
theorem release_eq (p : Pool τ) (task : τ) : ∃ free surplus unhooked spent,
    p.release task =
      { p with free := free, surplus := surplus, unhooked := unhooked, spent := spent } := by
  unfold release
  split
  · exact ⟨_, _, _, _, rfl⟩
  · obtain ⟨free, surplus, given⟩ := p.giveBack_eq
    exact ⟨free, surplus, _, _, given⟩

inductive Moves (p : Pool τ) : Event τ → Pool τ → Prop where
  | idle {event : Event τ} (cannot : ¬ p.Can event) : Moves p event p
  | block {task : τ} (full : p.free = 0) :
      Moves p (.submit task) { p with blocked := p.blocked ++ [task] }
  | hold {task : τ} {free : Nat} (room : p.free = free + 1) :
      Moves p (.submit task) { p with free := free, entering := p.entering ++ [task] }
  | take {task : τ} (blocked : task ∈ p.blocked) (room : 0 < p.free) :
      Moves p (.take task)
        { p with
          free := p.free - 1
          blocked := p.blocked.erase task
          entering := p.entering ++ [task] }
  | refuse {task : τ} (entering : task ∈ p.entering) (closed : p.closed = true) :
      Moves p (.enter task)
        { p with
          entering := p.entering.erase task
          refused := p.refused ++ [task] }.giveBack
  | accept {task : τ} (entering : task ∈ p.entering) (opened : p.closed = false) :
      Moves p (.enter task)
        { p with
          entering := p.entering.erase task
          accepted := p.accepted ++ [task]
          waiting := p.waiting ++ [task]
          unhooked := p.unhooked ++ [task] }
  | leave {task : τ} (spent : task ∈ p.spent) :
      Moves p (.hook task) { p with spent := p.spent.erase task }.giveBack
  | hook {task : τ} (unhooked : task ∈ p.unhooked) (unspent : task ∉ p.spent) :
      Moves p (.hook task) { p with unhooked := p.unhooked.erase task }
  | begin {task : τ} {rest : List τ} (first : p.waiting = task :: rest)
      (idle : p.running.length < p.workers) :
      Moves p .begin
        { p with waiting := rest, begun := p.begun ++ [task], running := p.running ++ [task] }
  | finish {task : τ} (running : task ∈ p.running) :
      Moves p (.finish task)
        (release
          { p with running := p.running.erase task, finished := p.finished ++ [task] } task)
  | cancel {task : τ} (waiting : task ∈ p.waiting) :
      Moves p (.cancel task)
        (release
          { p with waiting := p.waiting.erase task, cancelled := p.cancelled ++ [task] } task)
  | close : Moves p .close { p with closed := true }

theorem moves_step (p : Pool τ) (event : Event τ) : p.Moves event (p.step event) := by
  cases event with
  | submit task =>
    rw [step, submit]
    split
    case h_1 full => exact .block full
    case h_2 free room => exact .hold room
  | take task =>
    rw [step, take]
    split
    case isTrue possible => exact .take possible.1 possible.2
    case isFalse cannot => exact .idle cannot
  | enter task =>
    rw [step, enter]
    split
    case isTrue entering =>
      dsimp only
      split
      case isTrue closed => exact .refuse entering closed
      case isFalse opened => exact .accept entering (Bool.eq_false_iff.mpr opened)
    case isFalse cannot => exact .idle cannot
  | hook task =>
    rw [step, hook]
    split
    case isTrue spent => exact .leave spent
    case isFalse unspent =>
      by_cases unhooked : task ∈ p.unhooked
      · exact .hook unhooked unspent
      · rw [List.erase_of_not_mem unhooked]
        exact .idle (not_or.mpr ⟨unspent, unhooked⟩)
  | begin =>
    rw [step, begin]
    split
    case h_1 none => exact .idle fun can => can.1 none
    case h_2 task rest first =>
      split
      case isTrue idle => exact .begin first idle
      case isFalse busy => exact .idle fun can => busy can.2
  | finish task =>
    rw [step, finish]
    split
    case isTrue running => exact .finish running
    case isFalse cannot => exact .idle cannot
  | cancel task =>
    rw [step, cancel]
    split
    case isTrue waiting => exact .cancel waiting
    case isFalse cannot => exact .idle cannot
  | close => exact .close

/-- What cannot happen changes nothing. -/
theorem step_of_not_can {p : Pool τ} {event : Event τ} (cannot : ¬ p.Can event) :
    p.step event = p := by
  have moves := p.moves_step event
  generalize p.step event = q at moves ⊢
  cases moves with
  | idle => rfl
  | block | hold | close => exact absurd trivial cannot
  | take blocked room => exact absurd ⟨blocked, room⟩ cannot
  | refuse entering | accept entering => exact absurd entering cannot
  | leave spent => exact absurd (.inl spent) cannot
  | hook unhooked => exact absurd (.inr unhooked) cannot
  | begin first idle => exact absurd ⟨first ▸ List.cons_ne_nil _ _, idle⟩ cannot
  | finish running => exact absurd running cannot
  | cancel waiting => exact absurd waiting cannot

end TransferProof.Pool
