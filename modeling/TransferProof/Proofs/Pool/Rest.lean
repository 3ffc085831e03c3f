import TransferProof.Proofs.Pool.Slots

/-!
# Pools at work and at rest

What a pool does by itself is worked off: every such step leaves less to do, and there is one as
long as there is anything to do. So no submitter waits for ever, not even of a closed pool: once the
accepted tasks have ended it has got a slot, has been refused and has given the slot back, unless it
was accepted before. `SlotLaw` says this together with what holds of the slots in every state.
-/

namespace TransferProof.Pool

/-- It happens by itself: nobody asks anything new of the pool. -/
def Event.isOwn {τ : Type} : Event τ → Bool
  | .submit _ => false
  | .cancel _ => false
  | .close => false
  | _ => true

def Event.isSubmit {τ : Type} : Event τ → Bool
  | .submit _ => true
  | _ => false

variable {τ : Type} [DecidableEq τ] {p q : Pool τ}

def AtRest (p : Pool τ) : Prop := ∀ event : Event τ, event.isOwn = true → ¬ p.Can event

section Work

omit [DecidableEq τ] in
theorem work_giveBack (p : Pool τ) : p.giveBack.work = p.work := by
  obtain ⟨free, surplus, given⟩ := p.giveBack_eq
  rw [given]
  rfl

theorem work_release (p : Pool τ) (task : τ) : (p.release task).work = p.work := by
  unfold release
  split
  case isTrue member =>
    have left := length_erase_add_one member
    simp only [work, List.length_append, List.length_singleton]
    omega
  case isFalse => exact work_giveBack p

/-- Every step that a pool takes by itself leaves less to do. -/
theorem Moves.work_lt {event : Event τ} (moves : p.Moves event q) (own : event.isOwn = true)
    (can : p.Can event) : q.work < p.work := by
  cases moves with
  | idle cannot => exact absurd can cannot
  | block | hold | cancel | close => cases own
  | take blocked room =>
    have left := length_erase_add_one blocked
    simp only [work, List.length_append, List.length_singleton]
    omega
  | refuse entering closed =>
    have left := length_erase_add_one entering
    rw [work_giveBack]
    simp only [work]
    omega
  | accept entering opened =>
    have left := length_erase_add_one entering
    simp only [work, List.length_append, List.length_singleton]
    omega
  | leave spent =>
    have left := length_erase_add_one spent
    rw [work_giveBack]
    simp only [work]
    omega
  | hook unhooked unspent =>
    have left := length_erase_add_one unhooked
    simp only [work]
    omega
  | begin first idle =>
    simp only [work, first, List.length_cons, List.length_append, List.length_nil]
    omega
  | finish running =>
    have left := length_erase_add_one running
    rw [work_release]
    simp only [work]
    omega

theorem work_step_lt {event : Event τ} (own : event.isOwn = true) (can : p.Can event) :
    (p.step event).work < p.work := (p.moves_step event).work_lt own can

/-- A task that is submitted makes at most five steps necessary, and nothing else makes any. -/
theorem work_step_le (p : Pool τ) (event : Event τ) :
    (p.step event).work ≤ p.work + 5 * event.isSubmit.toNat := by
  by_cases can : p.Can event
  · cases event with
    | submit task =>
      rw [step, submit]
      split <;> simp only [work, List.length_append, List.length_singleton, Event.isSubmit,
        Bool.toNat_true] <;> omega
    | cancel task =>
      have member : task ∈ p.waiting := can
      have left := length_erase_add_one member
      rw [step, cancel, if_pos member, work_release]
      simp only [work]
      omega
    | close => exact Nat.le_refl _
    | _ => exact Nat.le_of_lt (work_step_lt rfl can)
  · rw [step_of_not_can can]
    omega

def ownSteps (p : Pool τ) : List (Event τ) → Nat
  | [] => 0
  | event :: rest =>
    (if event.isOwn = true ∧ p.Can event then 1 else 0) + (p.step event).ownSteps rest

/-- In no run does a pool take more steps by itself than there was to do, and five more for each
task that is submitted meanwhile. -/
theorem ownSteps_le (p : Pool τ) (events : List (Event τ)) :
    p.ownSteps events + (p.run events).work ≤ p.work + 5 * events.countP Event.isSubmit := by
  induction events generalizing p with
  | nil => exact Nat.le_of_eq (Nat.zero_add _)
  | cons event rest ih =>
    have later := ih (p.step event)
    show (if event.isOwn = true ∧ p.Can event then 1 else 0) + (p.step event).ownSteps rest
      + ((p.step event).run rest).work ≤ _
    by_cases happens : event.isOwn = true ∧ p.Can event
    · have less := work_step_lt happens.1 happens.2
      rw [if_pos happens]
      have counted : rest.countP Event.isSubmit ≤ (event :: rest).countP Event.isSubmit :=
        (List.sublist_cons_self event rest).countP_le
      omega
    · have more := work_step_le p event
      have counted : (event :: rest).countP Event.isSubmit =
          rest.countP Event.isSubmit + event.isSubmit.toNat := by
        rw [List.countP_cons]
        cases event.isSubmit <;> rfl
      rw [if_neg happens, counted]
      omega

omit [DecidableEq τ] in
/-- As long as there is something to do, some step of it can be taken. -/
theorem exists_own (balanced : Balanced 0 p) (workers : 0 < p.workers) (capacity : 0 < p.capacity)
    (busy : 0 < p.work) : ∃ event : Event τ, event.isOwn = true ∧ p.Can event := by
  by_cases entering : p.entering = []
  · by_cases spent : p.spent = []
    · by_cases unhooked : p.unhooked = []
      · by_cases running : p.running = []
        · by_cases waiting : p.waiting = []
          · -- Nobody holds a slot, so one is free, and all there is to do is to take it.
            have slots := balanced.slots
            rw [slots_eq, waiting, running, entering, spent] at slots
            have blocked : p.blocked ≠ [] := by
              intro none
              rw [work, none, entering, waiting, running, unhooked, spent] at busy
              exact absurd busy (Nat.lt_irrefl 0)
            obtain ⟨task, rest, first⟩ := List.exists_cons_of_ne_nil blocked
            refine ⟨.take task, rfl, ?_, ?_⟩
            · rw [first]
              exact List.mem_cons_self
            · simp only [List.length_nil] at slots
              omega
          · refine ⟨.begin, rfl, waiting, ?_⟩
            rw [running]
            exact workers
        · obtain ⟨task, member⟩ := List.exists_mem_of_ne_nil _ running
          exact ⟨.finish task, rfl, member⟩
      · obtain ⟨task, member⟩ := List.exists_mem_of_ne_nil _ unhooked
        exact ⟨.hook task, rfl, .inr member⟩
    · obtain ⟨task, member⟩ := List.exists_mem_of_ne_nil _ spent
      exact ⟨.hook task, rfl, .inl member⟩
  · obtain ⟨task, member⟩ := List.exists_mem_of_ne_nil _ entering
    exact ⟨.enter task, rfl, member⟩

omit [DecidableEq τ] in
/-- At rest nobody waits for anything and nobody holds a slot. -/
theorem AtRest.eq_nil (rest : p.AtRest) (balanced : Balanced 0 p) (workers : 0 < p.workers)
    (capacity : 0 < p.capacity) :
    p.blocked = [] ∧ p.entering = [] ∧ p.spent = [] ∧ p.waiting = [] ∧ p.running = [] := by
  have done : p.work = 0 := by
    by_contra busy
    obtain ⟨event, own, can⟩ := exists_own balanced workers capacity (Nat.pos_of_ne_zero busy)
    exact rest event own can
  rw [work] at done
  simp only [← List.length_eq_zero_iff]
  omega

end Work

section Closed

/-- What a submitter meets that hands in a task to a closed pool: the fault, and its slot is free
again. -/
structure Refuses (p : Pool τ) (task : τ) : Prop where
  told : (p.enter task).fault? task = some refusal
  free : (p.enter task).free = p.free + 1
  left : (p.enter task).entering = p.entering.erase task
  accepted : (p.enter task).accepted = p.accepted

theorem refuses_of_closed (balanced : Balanced 0 p) (closed : p.closed = true) {task : τ}
    (member : task ∈ p.entering) : Refuses p task := by
  have room : p.free < p.capacity := by
    have slots := balanced.slots
    have held := List.length_pos_of_mem member
    rw [slots_eq] at slots
    omega
  have refused : p.enter task = { p with
      entering := p.entering.erase task
      refused := p.refused ++ [task]
      free := p.free + 1 } := by
    rw [enter, if_pos member]
    dsimp only
    rw [if_pos closed, giveBack, if_pos room]
  constructor
  · rw [refused, fault?, if_pos (List.mem_append_right _ (List.mem_singleton.mpr rfl))]
  · rw [refused]
  · rw [refused]
  · rw [refused]

/-- Tasks that were submitted and have not been accepted, by what has become of them. -/
def unaccepted (p : Pool τ) : List τ := p.blocked ++ (p.entering ++ p.refused)

omit [DecidableEq τ] in
theorem submitted_eq (p : Pool τ) : p.submitted = p.unaccepted ++ p.accepted := by
  simp [submitted, unaccepted]

/-- After a pool was closed no task that had not been accepted gets lost. -/
theorem count_unaccepted_run_ge (closed : p.closed = true) (events : List (Event τ)) (task : τ) :
    p.unaccepted.count task ≤ (p.run events).unaccepted.count task := by
  induction events generalizing p with
  | nil => exact Nat.le_refl _
  | cons event rest ih =>
    obtain ⟨stays, accepted⟩ := closed_step closed event
    have counted := (submitted_step p event).count_eq task
    rw [submitted_eq, submitted_eq, accepted, List.count_append, List.count_append,
      List.count_append] at counted
    have later := ih stays
    show _ ≤ ((p.step event).run rest).unaccepted.count task
    omega

end Closed

section Law

/-- What holds of a pool with so many workers and with room for so many tasks beside those that they
work on, whatever was done to it. -/
structure SlotLaw (workers depth : Int) (p : Pool τ) : Prop where
  /-- A slot counts as held while its task is handed in. -/
  conserved : (p.free + p.unfinished.length + p.inHand.length : Int) = workers + depth
  surplus : p.surplus = 0
  blocks : ∀ task, (p.submit task).blocked = p.blocked ++ [task] ↔ p.free = 0
  admits : ∀ task, (p.submit task).entering = p.entering ++ [task] ↔ 0 < p.free
  /-- A blocked submitter can go on as soon as a slot is free, and only then. -/
  wakes : ∀ task ∈ p.blocked, p.Can (.take task) ↔ 0 < p.free
  busy : (p.running.length : Int) ≤ workers
  order : (p.begun ++ p.waiting).Sublist p.accepted
  whole : (p.begun ++ (p.waiting ++ p.cancelled)).Perm p.accepted
  refuses : p.closed = true → ∀ task ∈ p.entering, Refuses p task
  /-- As long as a submitter is blocked something can happen. -/
  moves : p.blocked ≠ [] → ∃ event : Event τ, event.isOwn = true ∧ p.Can event
  /-- It cannot go on like that for ever. -/
  bounded : ∀ later, p.ownSteps later ≤ p.work + 5 * later.countP Event.isSubmit
  rests : p.AtRest → p.blocked = [] ∧ p.inHand = [] ∧ p.unfinished = []
  /-- In the end everybody has been refused who was blocked when the pool had been closed. -/
  woken : p.closed = true → ∀ later, (p.run later).AtRest → ∀ task,
    p.blocked.count task + p.refused.count task ≤ (p.run later).refused.count task

/-- A pool that can be made is idle at first, and has a slot for each worker and for each task that
may wait. -/
theorem exists_ofSizes (τ : Type) (name : Text) {workers depth : Int} (staffed : 1 ≤ workers)
    (room : 0 ≤ depth) : ∃ p : Pool τ, ofSizes name workers depth = .ok p
      ∧ Sound workers.toNat (workers + depth).toNat p := by
  refine ⟨_, ?_, sound_idle name _ _⟩
  rw [ofSizes, if_neg (by omega), if_neg (by omega)]

theorem Sound.slotLaw {workers depth : Int} (staffed : 1 ≤ workers) (room : 0 ≤ depth)
    (sound : Sound workers.toNat (workers + depth).toNat p) : SlotLaw workers depth p := by
  have size := sound.workers
  have capacity := sound.capacity
  have slots := sound.balanced.slots
  constructor
  case conserved =>
    rw [Pool.slots] at slots
    omega
  case surplus => exact sound.balanced.surplus
  case blocks =>
    intro task
    unfold submit
    split <;> simp [*]
  case admits =>
    intro task
    unfold submit
    split <;> simp [*]
  case wakes => exact fun task member => ⟨fun can => can.2, fun free => ⟨member, free⟩⟩
  case busy =>
    have busy := sound.lined.busy
    omega
  case order => exact sound.lined.order
  case whole => exact sound.lined.whole
  case refuses => exact fun closed task member => refuses_of_closed sound.balanced closed member
  case moves =>
    intro blocked
    apply exists_own sound.balanced (by omega) (by omega)
    have positive := List.length_pos_of_ne_nil blocked
    rw [work]
    omega
  case bounded =>
    intro later
    have bound := ownSteps_le p later
    omega
  case rests =>
    intro rest
    obtain ⟨blocked, entering, spent, waiting, running⟩ :=
      rest.eq_nil sound.balanced (by omega) (by omega)
    rw [inHand, unfinished, blocked, entering, spent, waiting, running]
    exact ⟨rfl, rfl, rfl⟩
  case woken =>
    intro closed later rest task
    have still := sound.run later
    obtain ⟨blocked, entering, -⟩ :=
      rest.eq_nil still.balanced (by rw [still.workers]; omega) (by rw [still.capacity]; omega)
    have kept := count_unaccepted_run_ge closed later task
    simp only [unaccepted, blocked, entering, List.nil_append, List.count_append] at kept
    omega

/-- Of every pool that can be made with a worker, the law holds whatever is done to it. -/
theorem slotLaw_run (τ : Type) [DecidableEq τ] (name : Text) {workers depth : Int}
    (staffed : 1 ≤ workers) (room : 0 ≤ depth) :
    ∃ p : Pool τ, ofSizes name workers depth = .ok p
      ∧ ∀ events, SlotLaw workers depth (p.run events) := by
  obtain ⟨p, made, sound⟩ := exists_ofSizes τ name staffed room
  exact ⟨p, made, fun events => (sound.run events).slotLaw staffed room⟩

/-- A pool with a single slot. Its first task ends before the submitter is done with handing it in;
the second is blocked until then, and is refused since the pool was closed meanwhile. -/
def crowded : List (Event Nat) :=
  [.submit 1, .submit 2, .enter 1, .begin, .close, .finish 1, .take 2, .hook 1, .take 2, .enter 2]

theorem slotLaw_run_crowded : (1 : Int) ≤ 1 ∧ (0 : Int) ≤ 0 ∧
    ∃ p : Pool Nat, ofSizes "pool" 1 0 = .ok p
      ∧ (p.run (crowded.take 7)).inHand = [1] ∧ (p.run (crowded.take 7)).blocked = [2]
      ∧ (p.run crowded).finished = [1] ∧ (p.run crowded).refused = [2]
      ∧ (p.run crowded).free = 1 ∧ SlotLaw 1 0 (p.run crowded) := by
  refine ⟨by decide, by decide, ?_⟩
  obtain ⟨p, made, law⟩ :=
    slotLaw_run Nat "pool" (show (1 : Int) ≤ 1 by decide) (show (0 : Int) ≤ 0 by decide)
  have idle : p = { name := "pool", workers := 1, capacity := 1, free := 1 } :=
    (Except.ok.inj made).symm
  refine ⟨p, made, ?_, ?_, ?_, ?_, ?_, law crowded⟩
  all_goals
    rw [idle]
    decide

end Law

end TransferProof.Pool
