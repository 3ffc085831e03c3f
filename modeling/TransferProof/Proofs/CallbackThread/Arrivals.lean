import TransferProof.CallbackThread.Errand

/-!
# What arrives at a callback thread

Callbacks arrive when somebody has one executed or a timer brings one. They run in the order of
their arrival, each of them once: what has run and what is waiting are together what has arrived.
Whatever a callback does to its thread, whatever is done to it by others meanwhile, and whether the
callback fails, those behind it have their turn.
-/

namespace TransferProof

def CallbackTimer.isSpent {κ : Type} (timer : CallbackTimer κ) : Bool :=
  timer.finished && !timer.ringing

namespace CallbackThread

variable {κ : Type}

def doAll (t : CallbackThread κ) (deeds : List (Deed κ)) : CallbackThread κ := deeds.foldl doDeed t

/-- What callbacks do: in the state in which one begins, all that is done to the thread until it
ends, by itself or by others, and the fault that it ends in. -/
abbrev Script (κ : Type) := κ → CallbackThread κ → List (Deed κ) × Option Fault

def Script.perform (script : Script κ) (callback : κ) (t : CallbackThread κ) :
    CallbackThread κ × Option Fault :=
  (t.doAll (script callback t).1, (script callback t).2)

/-- A callback that is put into the queue, and the timer that brings it, if one does. -/
structure Arrival (κ : Type) where
  timer : Option Nat
  callback : κ

/-- A thread that is shut down lets nothing into its queue. -/
def admitted? (t : CallbackThread κ) (arrival : Arrival κ) : Option (Arrival κ) :=
  if t.shutDown then none else some arrival

def arrival? (t : CallbackThread κ) : Deed κ → Option (Arrival κ)
  | .execute callback => t.admitted? ⟨none, callback⟩
  | .fire id => match t.timers[id]? with
    | none => none
    | some timer =>
      if timer.finished || timer.ringing then none else t.admitted? ⟨some id, timer.callback⟩
  | .bring id => match t.timers[id]? with
    | none => none
    | some timer => if timer.ringing then t.admitted? ⟨some id, timer.callback⟩ else none
  | .runAfter _ _ | .goOff _ | .cancel _ | .shutdown => none

structure Moment (κ : Type) where
  thread : CallbackThread κ
  deed : Deed κ

def Moment.arrival? (moment : Moment κ) : Option (Arrival κ) := moment.thread.arrival? moment.deed

def arrivals (moments : List (Moment κ)) : List (Arrival κ) :=
  moments.flatMap fun moment => moment.arrival?.toList

/-- Deeds that are done one after another, each with its state. -/
def passage (t : CallbackThread κ) : List (Deed κ) → List (Moment κ)
  | [] => []
  | deed :: rest => ⟨t, deed⟩ :: passage (t.doDeed deed) rest

/-- The state in which the deeds of an event begin: a callback that runs has left the queue. -/
def opened (t : CallbackThread κ) : Event κ → CallbackThread κ
  | .deed _ => t
  | .runNext => match t.queue with
    | [] => t
    | callback :: rest => { t with queue := rest, ran := t.ran ++ [callback] }

def Script.deeds (script : Script κ) (t : CallbackThread κ) : Event κ → List (Deed κ)
  | .deed deed => [deed]
  | .runNext => match t.queue with
    | [] => []
    | callback :: _ => (script callback (t.opened .runNext)).1

/-- All deeds of a run, in order, those of the callbacks among them. -/
def history (script : Script κ) (t : CallbackThread κ) : List (Event κ) → List (Moment κ)
  | [] => []
  | event :: rest =>
    passage (t.opened event) (script.deeds t event)
      ++ history script (t.step script.perform event) rest

theorem arrivals_cons (moment : Moment κ) (rest : List (Moment κ)) :
    arrivals (moment :: rest) = moment.arrival?.toList ++ arrivals rest := List.flatMap_cons

theorem arrivals_append (before after : List (Moment κ)) :
    arrivals (before ++ after) = arrivals before ++ arrivals after := List.flatMap_append

/-- The two differ in their names and logs at most. -/
structure Alike (t u : CallbackThread κ) : Prop where
  shutDown : t.shutDown = u.shutDown
  queue : t.queue = u.queue
  ran : t.ran = u.ran
  timers : t.timers = u.timers
  tracked : t.tracked = u.tracked

/-- An event is its deeds, but for a line about a fault. -/
theorem alike_step (script : Script κ) (t : CallbackThread κ) (event : Event κ) :
    Alike (t.step script.perform event) ((t.opened event).doAll (script.deeds t event)) := by
  cases event with
  | deed deed => exact ⟨rfl, rfl, rfl, rfl, rfl⟩
  | runNext =>
    rw [step, runNext, opened, Script.deeds, opened]
    cases t.queue with
    | nil => exact ⟨rfl, rfl, rfl, rfl, rfl⟩
    | cons callback rest =>
      dsimp only [Script.perform]
      cases (script callback { t with queue := rest, ran := t.ran ++ [callback] }).2 with
      | none => exact ⟨rfl, rfl, rfl, rfl, rfl⟩
      | some fault => exact ⟨rfl, rfl, rfl, rfl, rfl⟩

section Order

variable (t : CallbackThread κ)

theorem ran_execute (callback : κ) : (t.execute callback).ran = t.ran := by
  rw [execute]
  split <;> rfl

theorem ran_forceFire (id : Nat) : (t.forceFire id).ran = t.ran := by
  rw [forceFire]
  split
  · rfl
  · rw [ran_execute]

/-- All that a deed can come to, with what it puts into the queue. -/
inductive Comes : CallbackThread κ → Option (Arrival κ) → Prop where
  | nothing : Comes t none
  | executed (callback : κ) : Comes (t.execute callback) (t.admitted? ⟨none, callback⟩)
  | armed (timer : CallbackTimer κ) (live : t.shutDown = false) :
      Comes { t with
        timers := t.timers ++ [timer]
        tracked := t.tracked ++ [t.timers.length] } none
  | brought (id : Nat) (timer : CallbackTimer κ) (known : t.timers[id]? = some timer)
      (unspent : timer.isSpent = false) :
      Comes (t.forceFire id) (t.admitted? ⟨some id, timer.callback⟩)
  | wentOff (id : Nat) : Comes (t.goOff id) none
  | calledOff (id : Nat) : Comes (t.cancel id) none
  | closed : Comes t.shutdown none

theorem comes_doDeed (deed : Deed κ) : t.Comes (t.doDeed deed) (t.arrival? deed) := by
  cases deed with
  | execute callback => exact .executed callback
  | runAfter callback delay =>
    rw [doDeed, runAfter]
    by_cases live : t.shutDown = true
    · rw [if_pos live]
      exact .nothing
    · rw [if_neg live]
      exact .armed _ (Bool.eq_false_iff.mpr live)
  | fire id =>
    rw [doDeed, fire, arrival?]
    cases known : t.timers[id]? with
    | none => exact .nothing
    | some timer =>
      dsimp only
      split
      case isTrue => exact .nothing
      case isFalse fresh =>
        rw [Bool.or_eq_true, not_or, Bool.not_eq_true] at fresh
        exact .brought id timer known (by rw [CallbackTimer.isSpent, fresh.1, Bool.false_and])
  | goOff id => exact .wentOff id
  | bring id =>
    rw [doDeed, bring, arrival?]
    cases known : t.timers[id]? with
    | none => exact .nothing
    | some timer =>
      dsimp only
      split
      case isTrue rings =>
        exact .brought id timer known (by rw [CallbackTimer.isSpent, rings, Bool.not_true,
          Bool.and_false])
      case isFalse => exact .nothing
  | cancel id => exact .calledOff id
  | shutdown => exact .closed

theorem queue_append_admitted (arrival : Arrival κ) :
    t.queue ++ (t.admitted? arrival).toList.map Arrival.callback =
      if t.shutDown then t.queue else t.queue ++ [arrival.callback] := by
  rw [admitted?]
  cases t.shutDown <;> simp

theorem queue_forceFire {id : Nat} {timer : CallbackTimer κ} (known : t.timers[id]? = some timer) :
    (t.forceFire id).queue =
      t.queue ++ (t.admitted? ⟨some id, timer.callback⟩).toList.map Arrival.callback := by
  rw [forceFire, known, queue_append_admitted]
  exact queue_execute _ _

/-- No deed runs a callback. -/
theorem Comes.ran {t u : CallbackThread κ} {arrived : Option (Arrival κ)}
    (comes : t.Comes u arrived) : u.ran = t.ran := by
  cases comes with
  | executed callback => exact ran_execute t callback
  | brought id => exact ran_forceFire t id
  | nothing | armed | wentOff | calledOff | closed => rfl

/-- What arrives is put behind what is waiting. -/
theorem Comes.queue {t u : CallbackThread κ} {arrived : Option (Arrival κ)}
    (comes : t.Comes u arrived) : u.queue = t.queue ++ arrived.toList.map Arrival.callback := by
  cases comes with
  | executed callback => rw [queue_append_admitted, queue_execute]
  | brought id timer known => exact t.queue_forceFire known
  | nothing | armed | wentOff | calledOff | closed => exact (List.append_nil _).symm

theorem ran_doAll (deeds : List (Deed κ)) : (t.doAll deeds).ran = t.ran := by
  induction deeds generalizing t with
  | nil => rfl
  | cons deed rest ih => exact (ih (t.doDeed deed)).trans (t.comes_doDeed deed).ran

theorem queue_doAll (deeds : List (Deed κ)) :
    (t.doAll deeds).queue = t.queue ++ (arrivals (passage t deeds)).map Arrival.callback := by
  induction deeds generalizing t with
  | nil => simp [doAll, passage, arrivals]
  | cons deed rest ih =>
    have tail : (t.doAll (deed :: rest)).queue = ((t.doDeed deed).doAll rest).queue := rfl
    rw [tail, ih, (t.comes_doDeed deed).queue, passage, arrivals_cons, List.map_append,
      List.append_assoc]
    rfl

end Order

section Run

variable (script : Script κ) (t : CallbackThread κ)

theorem run_cons (event : Event κ) (rest : List (Event κ)) :
    t.run script.perform (event :: rest) = (t.step script.perform event).run script.perform rest :=
  rfl

/-- A callback that begins to run is still one of those that have arrived. -/
theorem ran_append_queue_opened (event : Event κ) :
    (t.opened event).ran ++ (t.opened event).queue = t.ran ++ t.queue := by
  cases event with
  | deed deed => rfl
  | runNext =>
    rw [opened]
    cases waiting : t.queue with
    | nil => rw [waiting]
    | cons callback rest => simp

theorem ran_append_queue_step (event : Event κ) :
    (t.step script.perform event).ran ++ (t.step script.perform event).queue =
      t.ran ++ t.queue ++
        (arrivals (passage (t.opened event) (script.deeds t event))).map Arrival.callback := by
  have alike := alike_step script t event
  rw [alike.ran, alike.queue, ran_doAll, queue_doAll, ← List.append_assoc,
    ran_append_queue_opened]

/-- What has run and what is waiting are what was there before and, behind it, what arrived since,
in order. -/
theorem ran_append_queue_run (events : List (Event κ)) :
    (t.run script.perform events).ran ++ (t.run script.perform events).queue =
      t.ran ++ t.queue ++ (arrivals (history script t events)).map Arrival.callback := by
  induction events generalizing t with
  | nil => simp [run, history, arrivals]
  | cons event rest ih =>
    rw [run_cons, ih, ran_append_queue_step, history, arrivals_append, List.map_append,
      List.append_assoc]

def Event.isTurn : Event κ → Bool
  | .runNext => true
  | .deed _ => false

/-- Of those that are waiting, a turn runs the first; other events run none. -/
theorem ran_step (event : Event κ) :
    (t.step script.perform event).ran = t.ran ++ if event.isTurn then t.queue.take 1 else [] := by
  rw [(alike_step script t event).ran, ran_doAll]
  cases event with
  | deed deed => simp [opened, Event.isTurn]
  | runNext =>
    rw [opened]
    cases t.queue with
    | nil => simp
    | cons callback rest => simp [Event.isTurn]

/-- Every turn runs a callback while there are any of those that were waiting. -/
theorem length_ran_run_ge (events : List (Event κ)) :
    t.ran.length + min (events.countP Event.isTurn) t.queue.length
      ≤ (t.run script.perform events).ran.length := by
  induction events generalizing t with
  | nil => simp [run]
  | cons event rest ih =>
    have tail := ih (t.step script.perform event)
    have whole := congrArg List.length (ran_append_queue_step script t event)
    have ran := congrArg List.length (ran_step script t event)
    simp only [List.length_append, List.length_map] at whole ran
    rw [run_cons]
    cases turn : event.isTurn with
    | false =>
      rw [List.countP_cons_of_neg (by simp [turn])]
      simp only [turn, Bool.false_eq_true, if_false, List.length_nil] at ran
      omega
    | true =>
      rw [List.countP_cons_of_pos turn]
      simp only [turn, if_true, List.length_take] at ran
      omega

/-- After as many turns as there were callbacks waiting, those have run, each once and in order. -/
theorem ran_append_queue_prefix_ran {events : List (Event κ)}
    (turns : t.queue.length ≤ events.countP Event.isTurn) :
    t.ran ++ t.queue <+: (t.run script.perform events).ran := by
  have whole := ran_append_queue_run script t events
  have enough := length_ran_run_ge script t events
  rw [Nat.min_eq_right turns] at enough
  have older : t.ran ++ t.queue <+:
      (t.run script.perform events).ran ++ (t.run script.perform events).queue := by
    rw [whole]
    exact List.prefix_append _ _
  refine List.prefix_of_prefix_length_le older (List.prefix_append _ _) ?_
  rw [List.length_append]
  exact enough

end Run

end CallbackThread

/-- A command but for one that fires a timer by force. -/
def Command.IsNatural : Command → Prop
  | .fire _ force => force = false
  | .execute _ | .runAfter _ _ | .cancel _ | .shutdown => True

namespace Errand

open CallbackThread

/-- What a command does to a thread; nothing if it names a timer that there is not. -/
def deed? (t : Thread) : Command → Option (Deed Errand)
  | .execute errand => some (.execute errand)
  | .runAfter errand delay => some (.runAfter errand delay)
  | .fire name _ => (timer? t name).map .fire
  | .cancel name => (timer? t name).map .cancel
  | .shutdown => some .shutdown

/-- What commands do to a thread up to the first fault. -/
def deeds (t : Thread) : List Command → List (Deed Errand)
  | [] => []
  | command :: rest =>
    (deed? t command).toList ++
      match obey t command with
      | (t, none) => deeds t rest
      | (_, some _) => []

def script : Script Errand := fun errand t => (deeds t errand.commands, (perform errand t).2)

theorem obey_eq (t : Thread) {command : Command} (natural : command.IsNatural) :
    (obey t command).1 = t.doAll (deed? t command).toList := by
  cases command with
  | execute errand => rfl
  | runAfter errand delay =>
    rw [obey]
    cases armed : t.runAfter errand delay with
    | ok next => simp [deed?, doAll, doDeed, armed]
    | error fault => simp [deed?, doAll, doDeed, armed]
  | fire name force =>
    obtain rfl : force = false := natural
    rw [obey, deed?]
    cases timer? t name <;> rfl
  | cancel name =>
    rw [obey, deed?]
    cases timer? t name <;> rfl
  | shutdown => rfl

theorem obeyAll_eq (last : Option Fault) (t : Thread) {commands : List Command}
    (natural : ∀ command ∈ commands, command.IsNatural) :
    (obeyAll last t commands).1 = t.doAll (deeds t commands) := by
  induction commands generalizing t with
  | nil => rfl
  | cons command rest ih =>
    obtain ⟨first, others⟩ := List.forall_mem_cons.mp natural
    have here := obey_eq t first
    rw [obeyAll, deeds, doAll, List.foldl_append]
    change _ = List.foldl doDeed (t.doAll _) _
    rw [← here]
    cases obeyed : obey t command with
    | mk next fault =>
      cases fault with
      | none => exact ih next others
      | some fault => rfl

/-- An errand that fires no timer by force only does what any callback can do. -/
theorem perform_eq (t : Thread) {errand : Errand}
    (natural : ∀ command ∈ errand.commands, command.IsNatural) :
    perform errand t = script.perform errand t :=
  Prod.ext (obeyAll_eq errand.fault t natural) rfl

end Errand

end TransferProof
