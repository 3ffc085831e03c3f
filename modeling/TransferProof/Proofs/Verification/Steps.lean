import TransferProof.Proofs.Verifier.Ruling
import TransferProof.Verification

/-!
# Steps of a verification

What it does to a verification to carry out a ruling, and how a property lasts through a step. A
step may call handlers, and a handler may start or terminate the verification that called it, so a
property is looked at together with the notices that are still to be told: `Enduring` lists what it
has to survive, and `Enduring.run` carries it through a run. `Lasting` is the case in which nothing
is asked of the state in which an event happens.
-/

namespace TransferProof.Verification

open Verifier

def noted (s : Verification) (records : List LogRecord) : Verification :=
  { s with history := (records.map .logged).reverse ++ s.history }

/-- The verification after the timer that it holds was called off. -/
def callOff (s : Verification) : Option Timer → Verification
  | none => s
  | some timer => (s.carryOut (.cancel timer)).1

section Effects

variable (s : Verification) (v : Verifier)

theorem carryOutAll_log (records : List LogRecord) (rest : List Effect) :
    s.carryOutAll (records.map .log ++ rest) = (s.noted records).carryOutAll rest := by
  induction records generalizing s with
  | nil => rfl
  | cons record records ih =>
    have step : (s.observe (.logged record)).noted records = s.noted (record :: records) := by
      simp [noted, observe]
    rw [← step, ← ih]
    rfl

theorem carryOutAll_cancellations (held : Option Timer) :
    s.carryOutAll (held.toList.map .cancel) = (s.callOff held, none) := by
  cases held <;> rfl

theorem adopt_log (records : List LogRecord) (notices : List Notice) :
    s.adopt { verifier := v, effects := records.map .log, notices := notices } =
      ({ s with verifier := v }.noted records, none) := by
  have carried := carryOutAll_log { s with verifier := v } records []
  rwa [List.append_nil] at carried

theorem adopt_terminate :
    s.adopt s.verifier.terminate =
      ({ s with verifier := s.verifier.stopped }.callOff s.verifier.timer, none) :=
  carryOutAll_cancellations _ _

theorem start_eq : s.start.1 = (s.adopt (s.verifier.start s.clock)).1 := by
  rw [start, enact, (opening_start _ _).notices_eq_nil]
  cases s.adopt (s.verifier.start s.clock) with
  | mk t fault => cases fault <;> rfl

theorem terminate_eq :
    s.terminate = { s with verifier := s.verifier.stopped }.callOff s.verifier.timer := by
  rw [terminate, enact, adopt_terminate]
  rfl

theorem adopt_conclude (outcome : Outcome) (records : List LogRecord) (before : List Notice) :
    s.adopt (v.conclude outcome (records.map .log) before) =
      (({ s with verifier := { v.stopped with outcome := some outcome } }.noted records).callOff
        v.timer, none) := by
  rw [adopt, conclude, carryOutAll_log]
  exact carryOutAll_cancellations _ _

end Effects

/-- Lines in the log are no news to what does not look at them. -/
theorem filterMap_noted {α : Type} (f : Observation → Option α)
    (ignores : ∀ record, f (.logged record) = none) (s : Verification) (records : List LogRecord) :
    (s.noted records).history.filterMap f = s.history.filterMap f := by
  have lines : (records.map Observation.logged).reverse.filterMap f = [] := by
    refine List.filterMap_eq_nil_iff.mpr ?_
    intro o member
    obtain ⟨record, _, rfl⟩ := List.mem_map.mp (List.mem_reverse.mp member)
    exact ignores record
  rw [noted, List.filterMap_append, lines, List.nil_append]

section CallOff

variable (s : Verification) (held : Option Timer)

theorem filterMap_callOff {α : Type} (f : Observation → Option α)
    (ignores : ∀ due, f (.cancelled due) = none) :
    (s.callOff held).history.filterMap f = s.history.filterMap f := by
  cases held with
  | none => rfl
  | some timer => exact List.filterMap_cons_none (ignores timer.due)

@[simp] theorem callOff_verifier : (s.callOff held).verifier = s.verifier := by
  cases held <;> rfl

@[simp] theorem callOff_clock : (s.callOff held).clock = s.clock := by
  cases held <;> rfl

@[simp] theorem callOff_poolOpen : (s.callOff held).poolOpen = s.poolOpen := by
  cases held <;> rfl

@[simp] theorem callOff_submissions : (s.callOff held).submissions = s.submissions := by
  cases held <;> rfl

@[simp] theorem callOff_tasks : (s.callOff held).tasks = s.tasks := by
  cases held <;> rfl

@[simp] theorem callOff_queue : (s.callOff held).queue = s.queue := by
  cases held <;> rfl

@[simp] theorem callOff_fresh : (s.callOff held).fresh = s.fresh := by
  cases held <;> rfl

@[simp] theorem callOff_onResult : (s.callOff held).onResult = s.onResult := by
  cases held <;> rfl

@[simp] theorem callOff_onFault : (s.callOff held).onFault = s.onFault := by
  cases held <;> rfl

@[simp] theorem callOff_history :
    (s.callOff held).history = held.toList.map (fun t => .cancelled t.due) ++ s.history := by
  cases held <;> rfl

theorem callOff_timers :
    (s.callOff held).timers = s.timers.filter fun t => held != some t := by
  cases held with
  | none => exact (List.filter_eq_self.mpr fun _ _ => rfl).symm
  | some timer =>
    refine List.filter_congr fun t _ => ?_
    simp [bne, Bool.beq_comm]

end CallOff

/-- What each of the effects keeps is kept by all of them together. -/
theorem carryOutAll_keeps {P : Verification → Prop} {s : Verification} {effects : List Effect}
    (keeps : ∀ t, ∀ effect ∈ effects, P t → P (t.carryOut effect).1) (h : P s) :
    P (s.carryOutAll effects).1 := by
  induction effects generalizing s with
  | nil => exact h
  | cons effect rest ih =>
    have here := keeps s effect List.mem_cons_self h
    rw [carryOutAll]
    cases carried : s.carryOut effect with
    | mk t fault =>
      rw [carried] at here
      cases fault with
      | none => exact ih (fun t e member => keeps t e (List.mem_cons_of_mem _ member)) here
      | some fault => exact here

section Kept

variable (s : Verification)

theorem carryOut_verifier (effect : Effect) : (s.carryOut effect).1.verifier = s.verifier := by
  cases effect with
  | submit =>
    rw [carryOut]
    split <;> rfl
  | _ => rfl

theorem carryOut_clock (effect : Effect) : (s.carryOut effect).1.clock = s.clock := by
  cases effect with
  | submit =>
    rw [carryOut]
    split <;> rfl
  | _ => rfl

/-- The verifier is left in the state that was decided on. -/
theorem adopt_verifier (d : Decision) : (s.adopt d).1.verifier = d.verifier :=
  carryOutAll_keeps (P := fun t => t.verifier = d.verifier)
    (fun t effect _ kept => (carryOut_verifier t effect).trans kept) rfl

theorem adopt_clock (d : Decision) : (s.adopt d).1.clock = s.clock :=
  carryOutAll_keeps (P := fun t => t.clock = s.clock)
    (fun t effect _ kept => (carryOut_clock t effect).trans kept) rfl

/-- What a history tells of an effect that took place at some time. -/
def trace (time : Seconds) : Effect → Option Observation
  | .log record => some (.logged record)
  | .submit => some (.submitted time)
  | .enqueue _ => none
  | .arm timer => some (.armed timer.due)
  | .cancel timer => some (.cancelled timer.due)

theorem mem_history_carryOut {effect : Effect} {o : Observation}
    (member : o ∈ (s.carryOut effect).1.history) :
    o ∈ s.history ∨ trace s.clock effect = some o := by
  cases effect with
  | submit =>
    rw [carryOut] at member
    split at member
    · rcases List.mem_cons.mp member with rfl | old
      · exact Or.inr rfl
      · exact Or.inl old
    · exact Or.inl member
  | enqueue callback => exact Or.inl member
  | _ =>
    rcases List.mem_cons.mp member with rfl | old
    · exact Or.inr rfl
    · exact Or.inl old

/-- What a decision adds to the history comes from its effects. -/
theorem mem_history_adopt {d : Decision} {o : Observation} (member : o ∈ (s.adopt d).1.history) :
    o ∈ s.history ∨ ∃ effect ∈ d.effects, trace s.clock effect = some o := by
  refine (carryOutAll_keeps (s := { s with verifier := d.verifier }) (P := fun t =>
    t.clock = s.clock ∧ ∀ o ∈ t.history,
      o ∈ s.history ∨ ∃ effect ∈ d.effects, trace s.clock effect = some o) ?_ ⟨rfl, ?_⟩).2 o member
  · rintro t effect among ⟨clock, traced⟩
    refine ⟨(carryOut_clock t effect).trans clock, ?_⟩
    intro x found
    rcases mem_history_carryOut t found with old | new
    · exact traced x old
    · rw [clock] at new
      exact Or.inr ⟨effect, among, new⟩
  · exact fun x old => Or.inl old

/-- A decision puts callbacks behind those that are waiting. -/
theorem queue_adopt (d : Decision) :
    s.queue <+: (s.adopt d).1.queue
      ∧ ∀ callback ∈ (s.adopt d).1.queue, callback ∈ s.queue ∨ .enqueue callback ∈ d.effects := by
  refine carryOutAll_keeps (s := { s with verifier := d.verifier }) (P := fun t =>
    s.queue <+: t.queue
      ∧ ∀ callback ∈ t.queue, callback ∈ s.queue ∨ .enqueue callback ∈ d.effects) ?_
    ⟨List.prefix_refl _, fun _ => Or.inl⟩
  intro t effect among h
  cases effect with
  | submit =>
    rw [carryOut]
    split <;> exact h
  | enqueue callback =>
    refine ⟨h.1.trans (List.prefix_append _ _), ?_⟩
    intro other member
    rcases List.mem_append.mp member with old | new
    · exact h.2 other old
    · obtain rfl := List.mem_singleton.mp new
      exact Or.inr among
  | _ => exact h

end Kept

section Plans

variable (s : Verification)

theorem carryOut_plans (effect : Effect) :
    (s.carryOut effect).1.onResult = s.onResult ∧ (s.carryOut effect).1.onFault = s.onFault := by
  cases effect with
  | submit =>
    rw [carryOut]
    split <;> exact ⟨rfl, rfl⟩
  | _ => exact ⟨rfl, rfl⟩

theorem carryOutAll_plans (effects : List Effect) :
    (s.carryOutAll effects).1.onResult = s.onResult
      ∧ (s.carryOutAll effects).1.onFault = s.onFault := by
  refine carryOutAll_keeps (P := fun t => t.onResult = s.onResult ∧ t.onFault = s.onFault) ?_
    ⟨rfl, rfl⟩
  intro t effect _ kept
  have here := carryOut_plans t effect
  exact ⟨here.1.trans kept.1, here.2.trans kept.2⟩

/-- No decision changes what the handlers are going to do. -/
theorem adopt_plans (d : Decision) :
    (s.adopt d).1.onResult = s.onResult ∧ (s.adopt d).1.onFault = s.onFault :=
  carryOutAll_plans _ _

theorem start_plans : s.start.1.onResult = s.onResult ∧ s.start.1.onFault = s.onFault := by
  rw [start_eq]
  exact adopt_plans s _

/-- The handlers make only such moves from here on. -/
def Follows (may : Move → Prop) : Prop :=
  ∀ reaction ∈ s.onResult ++ s.onFault, ∀ move ∈ reaction.moves, may move

variable {s} {may : Move → Prop}

theorem Follows.of_plans {t : Verification} (follows : s.Follows may)
    (plans : t.onResult = s.onResult ∧ t.onFault = s.onFault) : t.Follows may := by
  rw [Follows, plans.1, plans.2]
  exact follows

/-- The next reaction of a handler makes only such moves, and so do those after it. -/
theorem Follows.next {plan : List Reaction}
    (follows : ∀ reaction ∈ plan, ∀ move ∈ reaction.moves, may move) :
    (∀ move ∈ (plan.head?.getD {}).moves, may move)
      ∧ ∀ reaction ∈ plan.tail, ∀ move ∈ reaction.moves, may move := by
  cases plan with
  | nil => simp
  | cons reaction rest =>
    exact ⟨follows reaction List.mem_cons_self,
      fun other member => follows other (List.mem_cons_of_mem _ member)⟩

end Plans

def upon (s : Verification) : Notice → Verification
  | .fault message cause =>
    { s with onFault := s.onFault.tail }.observe (.reported message cause)
  | .result outcome =>
    { s with onResult := s.onResult.tail }.observe (.delivered outcome s.clock)

def reaction (s : Verification) : Notice → Reaction
  | .fault _ _ => s.onFault.head?.getD {}
  | .result _ => s.onResult.head?.getD {}

theorem tell_eq (s : Verification) (notice : Notice) :
    s.tell notice =
      (s.upon notice).moveAll (s.reaction notice).fault (s.reaction notice).moves := by
  cases notice <;> rfl

/-- The verification after a callback, whose fault is noted and goes no further. -/
def noting : Verification × Option Fault → Verification
  | (s, none) => s
  | (s, some fault) => s.observe (.callbackFailed fault)

@[simp] theorem noting_verifier (s : Verification) (fault : Option Fault) :
    (noting (s, fault)).verifier = s.verifier := by
  cases fault <;> rfl

theorem runNext_eq {s : Verification} {callback : Callback} {rest : List Callback}
    (queued : s.queue = callback :: rest) :
    s.runNext =
      noting ({ s with queue := rest }.enact (s.verifier.run s.clock s.fresh callback)) := by
  rw [runNext, queued]
  dsimp only
  cases { s with queue := rest }.enact (s.verifier.run s.clock s.fresh callback) with
  | mk t fault => cases fault <;> rfl

theorem enact_of_adopt {s t : Verification} {d : Decision} (adopted : s.adopt d = (t, none)) :
    s.enact d = t.tellAll d.notices := by
  rw [enact, adopted]

theorem run_append (s : Verification) (events later : List Event) :
    s.run (events ++ later) = (s.run events).run later :=
  List.foldl_append

/-- Each of the events may happen in the state in which it does. -/
def Along (can : Verification → Event → Prop) : Verification → List Event → Prop
  | _, [] => True
  | s, event :: rest => can s event ∧ Along can (s.step event) rest

theorem along_append {can : Verification → Event → Prop} {s : Verification}
    {events later : List Event} :
    Along can s (events ++ later) ↔ Along can s events ∧ Along can (s.run events) later := by
  induction events generalizing s with
  | nil => exact ⟨fun along => ⟨trivial, along⟩, fun both => both.2⟩
  | cons event rest ih =>
    rw [List.cons_append, Along, Along, ih, and_assoc]
    rfl

/-- What may happen in every state may happen along every run. -/
theorem along_of_forall {can : Event → Prop} {events : List Event} (s : Verification)
    (allowed : ∀ event ∈ events, can event) : Along (fun _ => can) s events := by
  induction events generalizing s with
  | nil => trivial
  | cons event rest ih =>
    exact ⟨allowed event List.mem_cons_self,
      ih _ fun e member => allowed e (List.mem_cons_of_mem _ member)⟩

def AllFinal (notices : List Notice) : Prop :=
  ∀ outcome, .result outcome ∈ notices → outcome.isTerminal = true

theorem allFinal_nil : AllFinal [] :=
  fun _ member => absurd member List.not_mem_nil

/-- What a property has to survive in order to endure a run in which handlers make only such moves
and events happen only in such states. `P notices s` is the property of `s` while `notices` are
still to be told. -/
structure Enduring (may : Move → Prop) (can : Verification → Event → Prop)
    (P : List Notice → Verification → Prop) : Prop where
  /-- Whoever may start it from outside may do so from a handler. -/
  starts : ∀ {s}, can s .start → may .start
  opened : ∀ {notices s d}, may .start → P notices s → Opening s.verifier s.clock d →
    P notices (s.adopt d).1
  terminated : ∀ {notices s}, P notices s →
    P notices ({ s with verifier := s.verifier.stopped }.callOff s.verifier.timer)
  /-- A handler may take time only where nothing but a final outcome is still to be told. -/
  lingered : ∀ {notices s seconds}, may (.linger seconds) → AllFinal notices → P notices s →
    P notices (s.tick (s.clock + seconds))
  reported : ∀ {notices s message cause}, P (.fault message cause :: notices) s →
    P notices ({ s with onFault := s.onFault.tail }.observe (.reported message cause))
  delivered : ∀ {notices s outcome}, P (.result outcome :: notices) s →
    P notices ({ s with onResult := s.onResult.tail }.observe (.delivered outcome s.clock))
  /-- Notices are not told any more when a handler has failed. -/
  abandoned : ∀ {notices s}, P notices s → P [] s
  failed : ∀ {s} (fault : Fault), P [] s → P [] (s.observe (.callbackFailed fault))
  ruled : ∀ {s callback rest d}, can s .runNext → P [] s → s.queue = callback :: rest →
    Ruling s.verifier s.clock s.fresh callback d → P d.notices ({ s with queue := rest }.adopt d).1
  finished : ∀ {s result}, can s (.finish result) → P [] s → P [] (s.finish result)
  fired : ∀ {s timer}, can s (.fire timer) → P [] s → P [] (s.fire timer)
  ticked : ∀ {s time}, can s (.tick time) → P [] s → P [] (s.tick time)
  closed : ∀ {s}, can s .closePool → P [] s → P [] s.closePool

namespace Enduring

variable {may : Move → Prop} {can : Verification → Event → Prop}
  {P : List Notice → Verification → Prop} {notices : List Notice} {s : Verification}

theorem move (endures : Enduring may can P) {move : Move} (allowed : may move)
    (final : AllFinal notices) (h : P notices s) : P notices (s.move move).1 := by
  cases move with
  | start => exact endures.opened allowed h (opening_start _ _)
  | terminate =>
    have done := endures.terminated h
    rwa [Verification.move, adopt_terminate]
  | linger seconds => exact endures.lingered allowed final h

theorem move_plans (s : Verification) (move : Move) :
    (s.move move).1.onResult = s.onResult ∧ (s.move move).1.onFault = s.onFault := by
  cases move with
  | start => exact adopt_plans s _
  | terminate => exact adopt_plans s _
  | linger seconds => exact ⟨rfl, rfl⟩

theorem moveAll (endures : Enduring may can P) (last : Option Fault) {moves : List Move}
    (allowed : ∀ move ∈ moves, may move) (final : AllFinal notices) (follows : s.Follows may)
    (h : P notices s) :
    (s.moveAll last moves).1.Follows may ∧ P notices (s.moveAll last moves).1 := by
  induction moves generalizing s with
  | nil => exact ⟨follows, h⟩
  | cons m rest ih =>
    have kept := endures.move (allowed m List.mem_cons_self) final h
    have followed := follows.of_plans (move_plans s m)
    rw [Verification.moveAll]
    cases moved : s.move m with
    | mk t fault =>
      rw [moved] at kept followed
      cases fault with
      | none => exact ih (fun m member => allowed m (List.mem_cons_of_mem _ member)) followed kept
      | some fault => exact ⟨followed, kept⟩

theorem tell (endures : Enduring may can P) {notice : Notice} (final : AllFinal notices)
    (follows : s.Follows may) (h : P (notice :: notices) s) :
    (s.tell notice).1.Follows may ∧ P notices (s.tell notice).1 := by
  cases notice with
  | fault message cause =>
    obtain ⟨moves, left⟩ := Follows.next fun r member => follows r (List.mem_append_right _ member)
    refine endures.moveAll _ moves final ?_ (endures.reported h)
    intro reaction member
    rcases List.mem_append.mp member with onResult | onFault
    · exact follows reaction (List.mem_append_left _ onResult)
    · exact left reaction onFault
  | result outcome =>
    obtain ⟨moves, left⟩ := Follows.next fun r member => follows r (List.mem_append_left _ member)
    refine endures.moveAll _ moves final ?_ (endures.delivered h)
    intro reaction member
    rcases List.mem_append.mp member with onResult | onFault
    · exact left reaction onResult
    · exact follows reaction (List.mem_append_right _ onFault)

theorem tellAll (endures : Enduring may can P) (final : AllFinal notices.tail)
    (follows : s.Follows may) (h : P notices s) :
    (s.tellAll notices).1.Follows may ∧ P [] (s.tellAll notices).1 := by
  induction notices generalizing s with
  | nil => exact ⟨follows, h⟩
  | cons notice rest ih =>
    have told := endures.tell final follows h
    rw [Verification.tellAll]
    cases telling : s.tell notice with
    | mk t fault =>
      rw [telling] at told
      cases fault with
      | none =>
        exact ih (fun outcome member => final outcome (List.mem_of_mem_tail member)) told.1 told.2
      | some fault => exact ⟨told.1, endures.abandoned told.2⟩

theorem enact (endures : Enduring may can P) {d : Decision} (final : AllFinal d.notices.tail)
    (follows : s.Follows may) (h : P d.notices (s.adopt d).1) :
    (s.enact d).1.Follows may ∧ P [] (s.enact d).1 := by
  have followed := follows.of_plans (adopt_plans s d)
  rw [Verification.enact]
  cases adopted : s.adopt d with
  | mk t fault =>
    rw [adopted] at h followed
    cases fault with
    | none => exact endures.tellAll final followed h
    | some fault => exact ⟨followed, endures.abandoned h⟩

theorem noting (endures : Enduring may can P) {outcome : Verification × Option Fault}
    (h : outcome.1.Follows may ∧ P [] outcome.1) :
    (Verification.noting outcome).Follows may ∧ P [] (Verification.noting outcome) := by
  obtain ⟨s, _ | fault⟩ := outcome
  · exact h
  · exact ⟨h.1, endures.failed fault h.2⟩

theorem runNext (endures : Enduring may can P) (allowed : can s .runNext) (follows : s.Follows may)
    (h : P [] s) : s.runNext.Follows may ∧ P [] s.runNext := by
  cases queued : s.queue with
  | nil =>
    rw [Verification.runNext, queued]
    exact ⟨follows, h⟩
  | cons callback rest =>
    have ruling := ruling_run s.verifier s.clock s.fresh callback
    rw [runNext_eq queued]
    exact endures.noting (endures.enact (s := { s with queue := rest }) (fun _ => ruling.tail_final)
      follows
      (endures.ruled allowed h queued ruling))

theorem step (endures : Enduring may can P) {event : Event} (allowed : can s event)
    (follows : s.Follows may) (h : P [] s) : (s.step event).Follows may ∧ P [] (s.step event) := by
  cases event with
  | start =>
    have opening := opening_start s.verifier s.clock
    have opened := endures.opened (endures.starts allowed) h opening
    refine endures.enact ?_ follows ?_
    · rw [opening.notices_eq_nil]
      exact allFinal_nil
    · rwa [opening.notices_eq_nil]
  | terminate =>
    refine endures.enact allFinal_nil follows ?_
    rw [adopt_terminate]
    exact endures.terminated h
  | finish result =>
    refine ⟨?_, endures.finished allowed h⟩
    rw [Verification.step, Verification.finish]
    split <;> exact follows
  | runNext => exact endures.runNext allowed follows h
  | fire timer =>
    refine ⟨?_, endures.fired allowed h⟩
    rw [Verification.step, Verification.fire]
    split <;> exact follows
  | tick time => exact ⟨follows, endures.ticked allowed h⟩
  | closePool => exact ⟨follows, endures.closed allowed h⟩

/-- What endures every step holds after every run. -/
theorem run (endures : Enduring may can P) {events : List Event} (allowed : Along can s events)
    (follows : s.Follows may) (h : P [] s) :
    (s.run events).Follows may ∧ P [] (s.run events) := by
  induction events generalizing s with
  | nil => exact ⟨follows, h⟩
  | cons event rest ih =>
    obtain ⟨followed, kept⟩ := endures.step allowed.1 follows h
    exact ih allowed.2 followed kept

end Enduring

/-- What a property has to survive in order to last through a run in which handlers make only such
moves and only such events happen, whatever the clock shows. `P notices s` is the property of `s`
while `notices` are still to be told. -/
structure Lasting (may : Move → Prop) (can : Event → Prop)
    (P : List Notice → Verification → Prop) : Prop where
  /-- Whoever may start it from outside may do so from a handler. -/
  starts : can .start → may .start
  opened : ∀ {notices s d}, may .start → P notices s → Opening s.verifier s.clock d →
    P notices (s.adopt d).1
  terminated : ∀ {notices s}, P notices s →
    P notices ({ s with verifier := s.verifier.stopped }.callOff s.verifier.timer)
  ticked : ∀ {notices s} (time : Seconds), P notices s → P notices (s.tick time)
  reported : ∀ {notices s message cause}, P (.fault message cause :: notices) s →
    P notices ({ s with onFault := s.onFault.tail }.observe (.reported message cause))
  delivered : ∀ {notices s outcome}, P (.result outcome :: notices) s →
    P notices ({ s with onResult := s.onResult.tail }.observe (.delivered outcome s.clock))
  /-- Notices are not told any more when a handler has failed. -/
  abandoned : ∀ {notices s}, P notices s → P [] s
  failed : ∀ {s} (fault : Fault), P [] s → P [] (s.observe (.callbackFailed fault))
  ruled : ∀ {s callback rest d}, P [] s → s.queue = callback :: rest →
    Ruling s.verifier s.clock s.fresh callback d → P d.notices ({ s with queue := rest }.adopt d).1
  finished : ∀ {s result}, can (.finish result) → P [] s → P [] (s.finish result)
  fired : ∀ {s} (timer : Timer), P [] s → P [] (s.fire timer)
  closed : ∀ {s}, can .closePool → P [] s → P [] s.closePool

namespace Lasting

variable {may : Move → Prop} {can : Event → Prop} {P : List Notice → Verification → Prop}
  {s : Verification}

theorem enduring (lasts : Lasting may can P) : Enduring may (fun _ => can) P where
  starts := lasts.starts
  opened := lasts.opened
  terminated := lasts.terminated
  lingered := fun _ _ h => lasts.ticked _ h
  reported := lasts.reported
  delivered := lasts.delivered
  abandoned := lasts.abandoned
  failed := lasts.failed
  ruled := fun _ => lasts.ruled
  finished := lasts.finished
  fired := fun _ => lasts.fired _
  ticked := fun _ => lasts.ticked _
  closed := lasts.closed

/-- What lasts through every step holds after every run. -/
theorem run (lasts : Lasting may can P) {events : List Event}
    (allowed : ∀ event ∈ events, can event) (follows : s.Follows may) (h : P [] s) :
    (s.run events).Follows may ∧ P [] (s.run events) :=
  lasts.enduring.run (along_of_forall s allowed) follows h

end Lasting

def small (onResult : List Reaction) : Verification :=
  ofRequest
    { txHash := "5c", recipientAddress := "49", txKey := "d0", serviceAddress := "node.example"
      tradeId := "7", amount := 1, tradeDate := .zero false, requiredConfirmations := 10
      firstRequest := 0 }
    5 onResult []

end TransferProof.Verification
