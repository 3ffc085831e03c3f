import TransferProof.Proofs.CallbackThread.Arrivals

/-!
# What timers bring to a callback thread

A timer brings its callback at most once, and not at all if its owner calls it off before it goes
off. The thread keeps track of every timer that has neither fired nor been called off, therefore
none is left when it is shut down. Nothing arrives from then on: neither what somebody wants
executed nor what a timer brings that had gone off already.
-/

namespace TransferProof.CallbackThread

variable {κ : Type}

section Ageing

/-- What does not change about a timer as time goes by: it keeps its callback, and when it is
finished it stays so and does not go off any more. -/
structure Ages (old new : CallbackTimer κ) : Prop where
  callback : new.callback = old.callback
  finished : old.finished → new.finished
  quiet : old.finished → old.ringing = false → new.ringing = false

def Aged (old new : List (CallbackTimer κ)) : Prop :=
  ∀ (id : Nat) (timer : CallbackTimer κ), old[id]? = some timer →
    ∃ later, new[id]? = some later ∧ Ages timer later

theorem Ages.refl (timer : CallbackTimer κ) : Ages timer timer := ⟨rfl, id, fun _ => id⟩

theorem Ages.trans {a b c : CallbackTimer κ} (ab : Ages a b) (bc : Ages b c) : Ages a c where
  callback := bc.callback.trans ab.callback
  finished done := bc.finished (ab.finished done)
  quiet done silent := bc.quiet (ab.finished done) (ab.quiet done silent)

theorem Ages.isSpent {old new : CallbackTimer κ} (ages : Ages old new) (spent : old.isSpent) :
    new.isSpent := by
  simp only [CallbackTimer.isSpent, Bool.and_eq_true, Bool.not_eq_true'] at spent ⊢
  exact ⟨ages.finished spent.1, ages.quiet spent.1 spent.2⟩

theorem Aged.refl (timers : List (CallbackTimer κ)) : Aged timers timers :=
  fun _ timer known => ⟨timer, known, .refl timer⟩

theorem Aged.trans {a b c : List (CallbackTimer κ)} (ab : Aged a b) (bc : Aged b c) :
    Aged a c := by
  intro id timer known
  obtain ⟨middle, known, first⟩ := ab id timer known
  obtain ⟨later, known, second⟩ := bc id middle known
  exact ⟨later, known, first.trans second⟩

theorem aged_append (timers new : List (CallbackTimer κ)) : Aged timers (timers ++ new) := by
  intro id timer known
  obtain ⟨bound, -⟩ := List.getElem?_eq_some_iff.mp known
  exact ⟨timer, (List.getElem?_append_left bound).trans known, .refl timer⟩

theorem aged_modify (timers : List (CallbackTimer κ)) (place : Nat)
    {change : CallbackTimer κ → CallbackTimer κ} (ages : ∀ timer, Ages timer (change timer)) :
    Aged timers (timers.modify place change) := by
  intro id timer known
  by_cases here : place = id
  · exact ⟨change timer, by simp [here, known], ages timer⟩
  · exact ⟨timer, by simp [here, known], .refl timer⟩

theorem aged_retire (timers : List (CallbackTimer κ)) (id : Nat) : Aged timers (retire timers id) :=
  aged_modify timers id fun _ => ⟨rfl, fun _ => rfl, fun _ silent => silent⟩

theorem aged_silence (timers : List (CallbackTimer κ)) (id : Nat) :
    Aged timers (silence timers id) :=
  aged_modify timers id fun _ => ⟨rfl, fun _ => rfl, fun _ _ => rfl⟩

theorem aged_retireAll (ids : List Nat) (timers : List (CallbackTimer κ)) :
    Aged timers (ids.foldl retire timers) := by
  induction ids generalizing timers with
  | nil => exact .refl timers
  | cons id rest ih => exact (aged_retire timers id).trans (ih (retire timers id))

/-- A timer after a change was there before, and is the one that was changed or is the same. -/
theorem known_of_modify {timers : List (CallbackTimer κ)} {place id : Nat}
    {change : CallbackTimer κ → CallbackTimer κ} {later : CallbackTimer κ}
    (known : (timers.modify place change)[id]? = some later) :
    ∃ earlier, timers[id]? = some earlier ∧
      (id = place ∧ later = change earlier ∨ id ≠ place ∧ later = earlier) := by
  by_cases here : place = id
  · subst place
    rw [List.getElem?_modify_eq] at known
    obtain ⟨earlier, known, same⟩ := Option.map_eq_some_iff.mp known
    exact ⟨earlier, known, .inl ⟨rfl, same.symm⟩⟩
  · rw [List.getElem?_modify_ne change timers here] at known
    exact ⟨later, known, .inr ⟨Ne.symm here, rfl⟩⟩

theorem unfinished_modify {timers : List (CallbackTimer κ)} {place id : Nat}
    {change : CallbackTimer κ → CallbackTimer κ} (finishes : ∀ timer, (change timer).finished)
    {timer : CallbackTimer κ} (known : (timers.modify place change)[id]? = some timer)
    (pending : timer.finished = false) : timers[id]? = some timer ∧ id ≠ place := by
  obtain ⟨earlier, before, ⟨rfl, rfl⟩ | ⟨other, rfl⟩⟩ := known_of_modify known
  · rw [finishes earlier] at pending
    cases pending
  · exact ⟨before, other⟩

theorem unfinished_retireAll {ids : List Nat} {timers : List (CallbackTimer κ)} {id : Nat}
    {timer : CallbackTimer κ} (known : (ids.foldl retire timers)[id]? = some timer)
    (pending : timer.finished = false) : timers[id]? = some timer ∧ id ∉ ids := by
  induction ids generalizing timers with
  | nil => exact ⟨known, List.not_mem_nil⟩
  | cons first rest ih =>
    obtain ⟨before, absent⟩ := ih known
    obtain ⟨known, other⟩ := unfinished_modify (fun _ => rfl) before pending
    exact ⟨known, fun member => (List.mem_cons.mp member).elim other absent⟩

end Ageing

section Deeds

variable {t u : CallbackThread κ} {arrived : Option (Arrival κ)}

/-- What executing a callback leaves alone. -/
theorem execute_keeps (t : CallbackThread κ) (callback : κ) :
    (t.execute callback).timers = t.timers ∧ (t.execute callback).tracked = t.tracked ∧
      (t.execute callback).shutDown = t.shutDown := by
  rw [execute]
  split <;> exact ⟨rfl, rfl, rfl⟩

/-- A timer that brings its callback is finished and silent, and no longer tracked. -/
theorem forceFire_of_known {id : Nat} {timer : CallbackTimer κ}
    (known : t.timers[id]? = some timer) :
    (t.forceFire id).timers = silence t.timers id ∧
      (t.forceFire id).tracked = t.tracked.filter (· != id) ∧
      (t.forceFire id).shutDown = t.shutDown := by
  rw [forceFire, known]
  exact execute_keeps _ _

theorem Comes.aged (comes : t.Comes u arrived) : Aged t.timers u.timers := by
  cases comes with
  | nothing => exact .refl _
  | executed callback => rw [(execute_keeps t callback).1]; exact .refl _
  | armed timer => exact aged_append _ _
  | brought id timer known => rw [(forceFire_of_known known).1]; exact aged_silence _ _
  | wentOff id =>
    refine aged_modify t.timers id fun timer => ⟨rfl, fun done => done, fun done silent => ?_⟩
    simp [done, silent]
  | calledOff id => exact aged_retire _ _
  | closed => exact aged_retireAll _ _

/-- A thread that is shut down stays so, and nothing arrives. -/
theorem Comes.shutDown (comes : t.Comes u arrived) (ended : t.shutDown = true) :
    u.shutDown = true ∧ arrived = none := by
  have closed (arrival : Arrival κ) : t.admitted? arrival = none := by rw [admitted?, if_pos ended]
  cases comes with
  | executed callback => exact ⟨(execute_keeps t callback).2.2.trans ended, closed _⟩
  | armed timer live => rw [live] at ended; cases ended
  | brought id timer known => exact ⟨(forceFire_of_known known).2.2.trans ended, closed _⟩
  | nothing | wentOff | calledOff => exact ⟨ended, rfl⟩
  | closed => exact ⟨rfl, rfl⟩

theorem eq_of_admitted {offered admitted : Arrival κ}
    (admits : t.admitted? offered = some admitted) : admitted = offered := by
  rw [admitted?] at admits
  split at admits
  · cases admits
  · exact (Option.some.inj admits).symm

/-- What a timer brings is its callback, and the timer is spent then. -/
theorem Comes.source {arrival : Arrival κ} (comes : t.Comes u (some arrival)) {id : Nat}
    (source : arrival.timer = some id) :
    ∃ timer later, t.timers[id]? = some timer ∧ timer.isSpent = false ∧
      timer.callback = arrival.callback ∧ u.timers[id]? = some later ∧ later.isSpent := by
  generalize arrives : some arrival = arrived at comes
  cases comes with
  | executed callback =>
    rw [eq_of_admitted arrives.symm] at source
    cases source
  | brought place timer known unspent =>
    rw [eq_of_admitted arrives.symm] at source ⊢
    cases source
    refine ⟨timer, { timer with finished := true, ringing := false }, known, unspent, rfl, ?_, rfl⟩
    rw [(forceFire_of_known known).1, silence, List.getElem?_modify_eq, known]
    rfl
  | nothing | armed | wentOff | calledOff | closed => cases arrives

/-- Every timer that has neither fired nor been called off is tracked, and there is none when the
thread is shut down. -/
structure Kept (t : CallbackThread κ) : Prop where
  tracked : ∀ (id : Nat) (timer : CallbackTimer κ), t.timers[id]? = some timer →
    timer.finished = false → id ∈ t.tracked
  closed : t.shutDown = true → t.tracked = []

theorem Kept.finished (kept : Kept t) (ended : t.shutDown = true) {timer : CallbackTimer κ}
    (member : timer ∈ t.timers) : timer.finished := by
  obtain ⟨id, known⟩ := List.mem_iff_getElem?.mp member
  cases pending : timer.finished with
  | true => rfl
  | false =>
    have tracked := kept.tracked id timer known pending
    rw [kept.closed ended] at tracked
    cases tracked

theorem Comes.kept (comes : t.Comes u arrived) (kept : Kept t) : Kept u := by
  cases comes with
  | nothing => exact kept
  | executed callback =>
    obtain ⟨timers, tracked, shutDown⟩ := execute_keeps t callback
    exact ⟨by rw [timers, tracked]; exact kept.tracked,
      by rw [shutDown, tracked]; exact kept.closed⟩
  | armed timer live =>
    refine ⟨fun id other known pending => ?_, fun ended => ?_⟩
    · rw [List.mem_append, List.mem_singleton]
      rcases Nat.lt_or_ge id t.timers.length with old | new
      · rw [List.getElem?_append_left old] at known
        exact .inl (kept.tracked id other known pending)
      · have bound := (List.getElem?_eq_some_iff.mp known).1
        rw [List.length_append, List.length_singleton] at bound
        exact .inr (by omega)
    · rw [live] at ended
      cases ended
  | brought id timer known =>
    obtain ⟨timers, tracked, shutDown⟩ := forceFire_of_known known
    refine ⟨fun other later known pending => ?_, fun ended => ?_⟩
    · rw [timers] at known
      obtain ⟨known, different⟩ := unfinished_modify (fun _ => rfl) known pending
      rw [tracked]
      exact List.mem_filter.mpr ⟨kept.tracked other later known pending, by simpa using different⟩
    · rw [tracked, kept.closed (shutDown ▸ ended), List.filter_nil]
  | wentOff id =>
    refine ⟨fun other later known pending => ?_, kept.closed⟩
    obtain ⟨earlier, before, ⟨-, rfl⟩ | ⟨-, rfl⟩⟩ := known_of_modify known
    · exact kept.tracked other earlier before pending
    · exact kept.tracked other later before pending
  | calledOff id =>
    refine ⟨fun other later known pending => ?_, kept.closed⟩
    obtain ⟨known, -⟩ := unfinished_modify (fun _ => rfl) known pending
    exact kept.tracked other later known pending
  | closed =>
    refine ⟨fun other later known pending => ?_, fun _ => rfl⟩
    obtain ⟨known, untracked⟩ := unfinished_retireAll known pending
    exact absurd (kept.tracked other later known pending) untracked

end Deeds

section Chances

variable {t u : CallbackThread κ} {arrived : Option (Arrival κ)} (id : Nat)

/-- How often a timer may still bring its callback. -/
def chances (t : CallbackThread κ) (id : Nat) : Nat :=
  if t.timers[id]?.any CallbackTimer.isSpent then 0 else 1

/-- How often a timer brings its callback among what arrives. -/
def timesOf (id : Nat) (arrived : List (Arrival κ)) : Nat :=
  arrived.countP fun arrival => arrival.timer == some id

theorem chances_le_one (t : CallbackThread κ) : chances t id ≤ 1 := by
  rw [chances]
  split <;> omega

theorem chances_of_spent {timer : CallbackTimer κ} (known : t.timers[id]? = some timer)
    (spent : timer.isSpent) : chances t id = 0 := by
  rw [chances, known, Option.any_some, if_pos spent]

theorem chances_of_unspent {timer : CallbackTimer κ} (known : t.timers[id]? = some timer)
    (unspent : timer.isSpent = false) : chances t id = 1 := by
  rw [chances, known, Option.any_some, unspent]
  rfl

theorem Aged.chances_le (aged : Aged t.timers u.timers) : chances u id ≤ chances t id := by
  rcases Option.eq_none_or_eq_some t.timers[id]? with new | ⟨timer, known⟩
  · rw [chances.eq_1 t, new]
    exact chances_le_one id u
  · obtain ⟨later, kept, ages⟩ := aged id timer known
    cases spent : timer.isSpent with
    | true => rw [chances_of_spent id kept (ages.isSpent spent)]; exact Nat.zero_le _
    | false => rw [chances_of_unspent id known spent]; exact chances_le_one id u

/-- Every time that a timer brings its callback it has one chance less. -/
theorem Comes.chances_le (comes : t.Comes u arrived) :
    timesOf id arrived.toList + chances u id ≤ chances t id := by
  cases arrived with
  | none => simpa [timesOf] using comes.aged.chances_le id
  | some arrival =>
    by_cases source : arrival.timer = some id
    · obtain ⟨timer, later, known, unspent, -, after, spent⟩ := comes.source source
      rw [chances_of_unspent id known unspent, chances_of_spent id after spent]
      simp [timesOf, source]
    · have none : timesOf id (some arrival).toList = 0 := by simp [timesOf, source]
      rw [none, Nat.zero_add]
      exact comes.aged.chances_le id

end Chances

section Passing

structure SameTimers (t u : CallbackThread κ) : Prop where
  shutDown : t.shutDown = u.shutDown
  timers : t.timers = u.timers
  tracked : t.tracked = u.tracked

/-- The deeds take the thread from one state to another, each in the state that it was done in; in
between, callbacks leave the queue and faults are noted. -/
def Passes (t : CallbackThread κ) : List (Moment κ) → CallbackThread κ → Prop
  | [], u => SameTimers t u
  | moment :: rest, u =>
    SameTimers t moment.thread ∧ Passes (moment.thread.doDeed moment.deed) rest u

variable {t u v : CallbackThread κ}

theorem SameTimers.refl (t : CallbackThread κ) : SameTimers t t := ⟨rfl, rfl, rfl⟩

theorem SameTimers.trans (tu : SameTimers t u) (uv : SameTimers u v) : SameTimers t v :=
  ⟨tu.shutDown.trans uv.shutDown, tu.timers.trans uv.timers, tu.tracked.trans uv.tracked⟩

theorem SameTimers.chances_eq (same : SameTimers t u) (id : Nat) : chances t id = chances u id := by
  rw [chances, chances, same.timers]

theorem SameTimers.kept (same : SameTimers t u) (kept : Kept t) : Kept u :=
  ⟨by rw [← same.timers, ← same.tracked]; exact kept.tracked,
    by rw [← same.shutDown, ← same.tracked]; exact kept.closed⟩

theorem Passes.of_same {moments : List (Moment κ)} (same : SameTimers t u)
    (passes : Passes u moments v) : Passes t moments v := by
  cases moments with
  | nil => exact same.trans passes
  | cons moment rest => exact ⟨same.trans passes.1, passes.2⟩

theorem passes_passage {deeds : List (Deed κ)} {moments : List (Moment κ)}
    (later : Passes (t.doAll deeds) moments v) : Passes t (passage t deeds ++ moments) v := by
  induction deeds generalizing t with
  | nil => exact later
  | cons deed rest ih => exact ⟨.refl t, ih later⟩

theorem sameTimers_opened (t : CallbackThread κ) (event : Event κ) :
    SameTimers t (t.opened event) := by
  cases event with
  | deed deed => exact .refl t
  | runNext =>
    rw [opened]
    split <;> exact ⟨rfl, rfl, rfl⟩

/-- A run is a passage through its history. -/
theorem passes_history (script : Script κ) (t : CallbackThread κ) (events : List (Event κ)) :
    Passes t (history script t events) (t.run script.perform events) := by
  induction events generalizing t with
  | nil => exact .refl t
  | cons event rest ih =>
    have alike := alike_step script t event
    have after : SameTimers ((t.opened event).doAll (script.deeds t event))
        (t.step script.perform event) :=
      ⟨alike.shutDown.symm, alike.timers.symm, alike.tracked.symm⟩
    exact (passes_passage ((ih (t.step script.perform event)).of_same after)).of_same
      (sameTimers_opened t event)

/-- A passage is taken apart at one of its deeds. -/
theorem Passes.split {before after : List (Moment κ)} {moment : Moment κ}
    (passes : Passes t (before ++ moment :: after) v) :
    Passes t before moment.thread ∧
      Passes (moment.thread.doDeed moment.deed) after v := by
  induction before generalizing t with
  | nil => exact passes
  | cons first rest ih => exact ⟨⟨passes.1, (ih passes.2).1⟩, (ih passes.2).2⟩

theorem Passes.aged {moments : List (Moment κ)} (passes : Passes t moments v) :
    Aged t.timers v.timers := by
  induction moments generalizing t with
  | nil => rw [SameTimers.timers passes]; exact .refl _
  | cons moment rest ih =>
    rw [passes.1.timers]
    exact (moment.thread.comes_doDeed moment.deed).aged.trans (ih passes.2)

theorem Passes.kept {moments : List (Moment κ)} (passes : Passes t moments v) (kept : Kept t) :
    Kept v := by
  induction moments generalizing t with
  | nil => exact SameTimers.kept passes kept
  | cons moment rest ih =>
    exact ih passes.2 ((moment.thread.comes_doDeed moment.deed).kept (passes.1.kept kept))

theorem Passes.chances_le {moments : List (Moment κ)} (passes : Passes t moments v) (id : Nat) :
    timesOf id (arrivals moments) + chances v id ≤ chances t id := by
  induction moments generalizing t with
  | nil => simp [arrivals, timesOf, SameTimers.chances_eq passes id]
  | cons moment rest ih =>
    have first := (moment.thread.comes_doDeed moment.deed).chances_le id
    have later := ih passes.2
    rw [arrivals_cons, timesOf, List.countP_append, passes.1.chances_eq id]
    rw [timesOf] at first later
    have same : moment.arrival? = moment.thread.arrival? moment.deed := rfl
    rw [same]
    omega

/-- Nothing comes through to a thread that is shut down. -/
theorem Passes.shutDown {moments : List (Moment κ)} (passes : Passes t moments v)
    (ended : t.shutDown = true) :
    arrivals moments = [] ∧ ∀ moment ∈ moments, moment.thread.shutDown = true := by
  induction moments generalizing t with
  | nil => exact ⟨rfl, fun _ member => absurd member List.not_mem_nil⟩
  | cons moment rest ih =>
    have here : moment.thread.shutDown = true := passes.1.shutDown ▸ ended
    obtain ⟨closed, nothing⟩ := (moment.thread.comes_doDeed moment.deed).shutDown here
    obtain ⟨later, all⟩ := ih passes.2 closed
    refine ⟨?_, fun other member => ?_⟩
    · rw [arrivals_cons, Moment.arrival?, nothing, later]
      rfl
    · rcases List.mem_cons.mp member with rfl | member
      · exact here
      · exact all other member

end Passing

section Law

/-- What a thread owes to those who use it, in a state `t` with the deeds of the past that led to
it. The past may be any part of a run, so that what it says of the past holds for the future,
too. -/
structure RunLaw (script : Script κ) (t : CallbackThread κ) (past : List (Moment κ)) : Prop where
  /-- Callbacks have run and wait in the order in which they arrived, each once. -/
  order : t.ran ++ t.queue = (arrivals past).map Arrival.callback
  /-- Whatever happens, all that have arrived have run after as many turns as are waiting. -/
  turns : ∀ later, t.queue.length ≤ later.countP Event.isTurn →
    (arrivals past).map Arrival.callback <+: (t.run script.perform later).ran
  /-- Arming makes a new timer with its callback. -/
  armed : ∀ moment ∈ past, ∀ callback delay, moment.deed = .runAfter callback delay →
    moment.thread.shutDown = false →
    ∃ timer, t.timers[moment.thread.timers.length]? = some timer ∧ timer.callback = callback
  /-- What a timer brings is its callback. -/
  source : ∀ arrival ∈ arrivals past, ∀ id, arrival.timer = some id →
    ∃ timer, t.timers[id]? = some timer ∧ timer.callback = arrival.callback
  /-- A timer brings its callback at most once. -/
  once : ∀ id, timesOf id (arrivals past) ≤ 1
  /-- A timer brings nothing, before and after, when it is called off before it goes off. -/
  cancelled : ∀ before thread id after, past = before ++ ⟨thread, .cancel id⟩ :: after →
    ∀ timer, thread.timers[id]? = some timer → timer.finished = false → timer.ringing = false →
    timesOf id (arrivals past) = 0
  /-- No timer is left by a shutdown, and nothing arrives after it. -/
  dropped : ∀ before thread after, past = before ++ ⟨thread, .shutdown⟩ :: after →
    (∀ timer ∈ thread.shutdown.timers, timer.finished) ∧ arrivals after = []
  /-- Arming fails after a shutdown and changes nothing. -/
  refused : ∀ before thread after, past = before ++ ⟨thread, .shutdown⟩ :: after →
    ∀ moment ∈ after, ∀ callback delay,
      moment.thread.runAfter callback delay = .error moment.thread.closedFault ∧
        moment.thread.doDeed (.runAfter callback delay) = moment.thread

variable {t u v : CallbackThread κ} {past : List (Moment κ)}

theorem runAfter_of_shutDown (ended : t.shutDown = true) (callback : κ) (delay : Seconds) :
    t.runAfter callback delay = .error t.closedFault := by
  rw [runAfter, if_pos ended]

theorem doDeed_runAfter_of_shutDown (ended : t.shutDown = true) (callback : κ) (delay : Seconds) :
    t.doDeed (.runAfter callback delay) = t := by
  rw [doDeed, runAfter_of_shutDown ended]

theorem Passes.armed (passes : Passes t past v) {moment : Moment κ} (member : moment ∈ past)
    {callback : κ} {delay : Seconds} (arms : moment.deed = .runAfter callback delay)
    (live : moment.thread.shutDown = false) :
    ∃ timer, v.timers[moment.thread.timers.length]? = some timer ∧ timer.callback = callback := by
  obtain ⟨before, after, rfl⟩ := List.append_of_mem member
  have aged := passes.split.2.aged
  have new : (moment.thread.doDeed moment.deed).timers[moment.thread.timers.length]? =
      some { callback := callback, delay := delay } := by
    rw [arms, doDeed, runAfter, live]
    simp
  obtain ⟨timer, known, ages⟩ := aged _ _ new
  exact ⟨timer, known, ages.callback⟩

theorem Passes.source (passes : Passes t past v) {arrival : Arrival κ}
    (member : arrival ∈ arrivals past) {id : Nat} (source : arrival.timer = some id) :
    ∃ timer, v.timers[id]? = some timer ∧ timer.callback = arrival.callback := by
  obtain ⟨moment, member, arrives⟩ := List.mem_flatMap.mp member
  obtain ⟨before, after, rfl⟩ := List.append_of_mem member
  have comes := moment.thread.comes_doDeed moment.deed
  have arrives : moment.thread.arrival? moment.deed = some arrival := Option.mem_toList.mp arrives
  rw [arrives] at comes
  obtain ⟨timer, later, known, -, callback, -⟩ := comes.source source
  have aged := comes.aged.trans passes.split.2.aged
  obtain ⟨last, known, ages⟩ := aged id timer known
  exact ⟨last, known, ages.callback.trans callback⟩

/-- A timer that is called off before it goes off brings nothing in the whole passage. -/
theorem Passes.cancelled {before after : List (Moment κ)} {thread : CallbackThread κ} {id : Nat}
    (passes : Passes t (before ++ ⟨thread, .cancel id⟩ :: after) v) {timer : CallbackTimer κ}
    (known : thread.timers[id]? = some timer) (pending : timer.finished = false)
    (silent : timer.ringing = false) :
    timesOf id (arrivals (before ++ ⟨thread, .cancel id⟩ :: after)) = 0 := by
  have until_ := passes.split.1.chances_le id
  have since := passes.split.2.chances_le id
  have unspent : timer.isSpent = false := by rw [CallbackTimer.isSpent, pending, Bool.false_and]
  have off : (thread.doDeed (.cancel id)).timers[id]? = some { timer with finished := true } := by
    rw [doDeed, cancel, retire, List.getElem?_modify_eq, known]
    rfl
  have spent := chances_of_spent id off (by rw [CallbackTimer.isSpent, silent]; rfl)
  have start := chances_le_one id t
  rw [chances_of_unspent id known unspent] at until_
  rw [spent] at since
  have nothing : Moment.arrival? ⟨thread, .cancel id⟩ = none := rfl
  rw [arrivals_append, arrivals_cons, nothing, Option.toList_none, List.nil_append, timesOf,
    List.countP_append]
  rw [timesOf] at until_ since
  omega

theorem kept_new (name : Text) : Kept ({ name := name } : CallbackThread κ) where
  tracked id timer known := by cases known
  closed closed := by cases closed

/-- The law of every thread, whoever does what to it in whatever order and whatever its callbacks
do, others in between, and however they end. -/
theorem runLaw_run (script : Script κ) (name : Text) (events : List (Event κ)) :
    RunLaw script (run script.perform { name := name } events)
      (history script { name := name } events) := by
  have passes := passes_history script { name := name } events
  have order := ran_append_queue_run script { name := name } events
  rw [List.nil_append, List.nil_append] at order
  refine ⟨order, fun later turns => ?_, fun moment member callback delay arms live => ?_,
    fun arrival member id source => ?_, fun id => ?_, ?_, ?_, ?_⟩
  · rw [← order]
    exact ran_append_queue_prefix_ran script _ turns
  · exact passes.armed member arms live
  · exact passes.source member source
  · have bound := passes.chances_le id
    have start := chances_le_one id ({ name := name } : CallbackThread κ)
    omega
  · intro before thread id after split timer known pending silent
    rw [split] at passes ⊢
    exact passes.cancelled known pending silent
  · intro before thread after split
    rw [split] at passes
    have kept : Kept thread.shutdown :=
      (thread.comes_doDeed .shutdown).kept (passes.split.1.kept (kept_new name))
    exact ⟨fun timer member => kept.finished rfl member, (passes.split.2.shutDown rfl).1⟩
  · intro before thread after split moment member callback delay
    rw [split] at passes
    have ended := (passes.split.2.shutDown rfl).2 moment member
    exact ⟨runAfter_of_shutDown ended callback delay,
      doDeed_runAfter_of_shutDown ended callback delay⟩

/-- Callback 0 arms timers for 1 and 2, has 3 executed, calls the second timer off and fails. The
first timer goes off and the thread is shut down before it brings 1. -/
example : (run (Script.perform fun callback _ =>
      if callback = 0 then
        ([.runAfter 1 (.exact 5), .runAfter 2 (.exact 5), .execute 3, .cancel 1],
          some (.plain .runtime none))
      else ([], none)) ({ name := defaultName } : CallbackThread Nat)
    [.deed (.execute 0), .deed (.execute 4), .runNext, .deed (.goOff 0), .deed (.fire 1),
      .deed .shutdown, .deed (.bring 0), .deed (.execute 5), .runNext, .runNext, .runNext]).ran =
    [0, 4, 3] := by rfl

end Law

end TransferProof.CallbackThread
