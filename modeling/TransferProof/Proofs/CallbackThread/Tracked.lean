import Mathlib.Data.List.Basic
import Mathlib.Data.List.Induction
import Mathlib.Data.List.Nodup
import Mathlib.Data.List.Perm.Basic
import TransferProof.Proofs.CallbackThread.Timers
import TransferProof.Proofs.Fleet.Progress

/-!
# The timers that a callback thread keeps

A thread keeps a timer from when it is armed until it brings its callback or the thread is shut
down. Nobody tells it that an owner has called a timer off. So besides the timers that are armed it
keeps those that were called off and have brought nothing since, and it goes on keeping them: a
verifier that is terminated while it waits for its next poll leaves its timer there.
-/

namespace TransferProof.CallbackThread

variable {κ : Type}

def isArmed (t : CallbackThread κ) (id : Nat) : Bool :=
  t.timers[id]?.any fun timer => !timer.finished

def armed (t : CallbackThread κ) : List Nat := (List.range t.timers.length).filter t.isArmed

def arms? (t : CallbackThread κ) : Deed κ → Option Nat
  | .runAfter _ _ => if t.shutDown then none else some t.timers.length
  | _ => none

def brings? (t : CallbackThread κ) : Deed κ → Option Nat
  | .fire id =>
    if t.timers[id]?.any fun timer => !(timer.finished || timer.ringing) then some id else none
  | .bring id => if t.timers[id]?.any CallbackTimer.ringing then some id else none
  | _ => none

/-- The timer that a deed calls off while it is armed. -/
def callsOff? (t : CallbackThread κ) : Deed κ → Option Nat
  | .cancel id => if t.isArmed id then some id else none
  | _ => none

/-- The timer brings its callback, or the thread is shut down. -/
def Moment.releases (moment : Moment κ) (id : Nat) : Bool :=
  match moment.deed with
  | .shutdown => true
  | deed => moment.thread.brings? deed == some id

/-- In the course of these deeds the timer is called off while it is armed, and from there on it
does not bring its callback, and the thread is not shut down. -/
def Abandoned (past : List (Moment κ)) (id : Nat) : Prop :=
  ∃ before thread after, past = before ++ ⟨thread, .cancel id⟩ :: after
    ∧ thread.isArmed id = true ∧ ∀ moment ∈ after, moment.releases id = false

def abandoned : List (Moment κ) → List Nat
  | [] => []
  | moment :: later =>
    ((moment.thread.callsOff? moment.deed).toList.filter fun id =>
      later.all fun other => !other.releases id) ++ abandoned later

section Armed

variable {t : CallbackThread κ} {id : Nat}

theorem isArmed_iff : t.isArmed id = true ↔
    ∃ timer, t.timers[id]? = some timer ∧ timer.finished = false := by
  simp [isArmed, Option.any_eq_true]

theorem isArmed_of_timers {u : CallbackThread κ} (timers : u.timers = t.timers) (id : Nat) :
    u.isArmed id = t.isArmed id := by
  rw [isArmed, timers, isArmed]

theorem mem_armed_iff : id ∈ t.armed ↔ t.isArmed id = true := by
  rw [armed, List.mem_filter, List.mem_range, and_iff_right_iff_imp]
  intro isArmed
  obtain ⟨timer, known, -⟩ := isArmed_iff.mp isArmed
  exact (List.getElem?_eq_some_iff.mp known).1

/-- A change that finishes a timer leaves all others as they were. -/
theorem isArmed_of_finishing {u : CallbackThread κ} {place : Nat}
    {change : CallbackTimer κ → CallbackTimer κ} (timers : u.timers = t.timers.modify place change)
    (finishes : ∀ timer, (change timer).finished) :
    u.isArmed id = true ↔ t.isArmed id = true ∧ place ≠ id := by
  rw [isArmed_iff, isArmed_iff, timers]
  constructor
  · rintro ⟨timer, known, pending⟩
    obtain ⟨known, other⟩ := unfinished_modify finishes known pending
    exact ⟨⟨timer, known, pending⟩, Ne.symm other⟩
  · rintro ⟨⟨timer, known, pending⟩, other⟩
    exact ⟨timer, (List.getElem?_modify_ne change t.timers other).trans known, pending⟩

/-- A change that leaves it open whether a timer is finished leaves all as they were. -/
theorem isArmed_of_keeping {u : CallbackThread κ} {place : Nat}
    {change : CallbackTimer κ → CallbackTimer κ}
    (timers : u.timers = t.timers.modify place change)
    (keeps : ∀ timer, (change timer).finished = timer.finished) :
    u.isArmed id = t.isArmed id := by
  rw [isArmed, isArmed, timers, List.getElem?_modify]
  cases t.timers[id]? with
  | none => rfl
  | some timer =>
    by_cases here : place = id
    · simp [here, keeps]
    · simp [here]

theorem isArmed_append {u : CallbackThread κ} {timer : CallbackTimer κ}
    (pending : timer.finished = false) (timers : u.timers = t.timers ++ [timer]) :
    u.isArmed id = true ↔ t.isArmed id = true ∨ t.timers.length = id := by
  rw [isArmed, isArmed, timers]
  rcases Nat.lt_trichotomy id t.timers.length with old | rfl | beyond
  · rw [List.getElem?_append_left old, or_iff_left (by omega)]
  · simp [pending]
  · have none : (t.timers ++ [timer])[id]? = none := by
      rw [List.getElem?_eq_none_iff, List.length_append, List.length_singleton]
      omega
    have before : t.timers[id]? = Option.none :=
      List.getElem?_eq_none_iff.mpr (Nat.le_of_lt beyond)
    rw [none, before, or_iff_left (by omega)]

end Armed

section Deeds

variable {t u : CallbackThread κ} {deed : Deed κ} {id : Nat}

structure Tends (t : CallbackThread κ) (deed : Deed κ) (u : CallbackThread κ) : Prop where
  tracked : u.tracked =
    t.tracked.filter (fun id => !(Moment.mk t deed).releases id) ++ (t.arms? deed).toList
  armed : (∀ id, t.isArmed id = true → id ∈ t.tracked) → ∀ id, u.isArmed id = true ↔
    t.isArmed id = true ∧ (Moment.mk t deed).releases id = false ∧ t.callsOff? deed ≠ some id
      ∨ t.arms? deed = some id

theorem tends_of_same (timers : u.timers = t.timers) (tracked : u.tracked = t.tracked)
    (arms : t.arms? deed = none) (calls : t.callsOff? deed = none)
    (releases : ∀ id, (Moment.mk t deed).releases id = false) : Tends t deed u where
  tracked := by simp [tracked, arms, releases]
  armed _ id := by simp [isArmed_of_timers timers, arms, calls, releases]

/-- A timer that brings its callback is finished and no longer kept. -/
theorem tends_of_brings (brings : t.brings? deed = some id) {timer : CallbackTimer κ}
    (known : t.timers[id]? = some timer) (arms : t.arms? deed = none)
    (calls : t.callsOff? deed = none)
    (releases : ∀ other, (Moment.mk t deed).releases other = (t.brings? deed == some other)) :
    Tends t deed (t.forceFire id) := by
  obtain ⟨timers, tracked, -⟩ := forceFire_of_known known
  refine ⟨?_, fun _ other => ?_⟩
  · rw [tracked, arms, Option.toList_none, List.append_nil]
    refine List.filter_congr fun other _ => ?_
    rw [releases, brings, Option.some_beq_some, bne, BEq.comm]
  · rw [isArmed_of_finishing timers fun _ => rfl, releases, brings]
    simp [arms, calls]

/-- A timer that is due brings its callback, or nothing happens. -/
theorem tends_fire (t : CallbackThread κ) (place : Nat) :
    Tends t (.fire place) (t.fire place) := by
  rw [fire]
  cases known : t.timers[place]? with
  | none => exact tends_of_same rfl rfl rfl rfl fun id => by simp [Moment.releases, brings?, known]
  | some timer =>
    dsimp only
    split
    case isTrue spent =>
      have none : t.brings? (.fire place) = none := by
        rw [brings?, known, Option.any_some, spent]
        rfl
      exact tends_of_same rfl rfl rfl rfl fun id => by simp [Moment.releases, none]
    case isFalse due =>
      have brings : t.brings? (.fire place) = some place := by simpa [brings?, known] using due
      exact tends_of_brings brings known rfl rfl fun _ => rfl

/-- A timer that has gone off brings its callback; of another one nothing comes. -/
theorem tends_bring (t : CallbackThread κ) (place : Nat) :
    Tends t (.bring place) (t.bring place) := by
  rw [bring]
  cases known : t.timers[place]? with
  | none => exact tends_of_same rfl rfl rfl rfl fun id => by simp [Moment.releases, brings?, known]
  | some timer =>
    dsimp only
    split
    case isTrue rings =>
      have brings : t.brings? (.bring place) = some place := by simp [brings?, known, rings]
      exact tends_of_brings brings known rfl rfl fun _ => rfl
    case isFalse silent =>
      exact tends_of_same rfl rfl rfl rfl fun id => by
        simp [Moment.releases, brings?, known, silent]

theorem tends_runAfter (t : CallbackThread κ) (callback : κ) (delay : Seconds) :
    Tends t (.runAfter callback delay) (t.doDeed (.runAfter callback delay)) := by
  rw [doDeed, runAfter]
  by_cases ended : t.shutDown = true
  · rw [if_pos ended]
    exact tends_of_same rfl rfl (if_pos ended) rfl fun _ => rfl
  · rw [if_neg ended]
    have arms : t.arms? (.runAfter callback delay) = some t.timers.length := if_neg ended
    refine ⟨?_, fun _ id => ?_⟩
    · simp [arms, Moment.releases, brings?]
    · rw [isArmed_append rfl rfl, arms]
      simp [callsOff?, Moment.releases, brings?]

/-- A shutdown leaves no timer that was kept, and with that none that was armed. -/
theorem tends_shutdown (t : CallbackThread κ) : Tends t .shutdown t.shutdown where
  tracked := by simp [shutdown, arms?, Moment.releases]
  armed kept id := by
    have none : ¬ t.shutdown.isArmed id = true := by
      intro armed
      obtain ⟨timer, known, pending⟩ := isArmed_iff.mp armed
      obtain ⟨before, untracked⟩ := unfinished_retireAll known pending
      exact untracked (kept id (isArmed_iff.mpr ⟨timer, before, pending⟩))
    simp [none, arms?, Moment.releases]

theorem tends_doDeed (t : CallbackThread κ) (deed : Deed κ) : Tends t deed (t.doDeed deed) := by
  cases deed with
  | execute callback =>
    obtain ⟨timers, tracked, -⟩ := execute_keeps t callback
    exact tends_of_same timers tracked rfl rfl fun _ => rfl
  | runAfter callback delay => exact tends_runAfter t callback delay
  | fire place => exact tends_fire t place
  | goOff place =>
    refine ⟨?_, fun _ id => ?_⟩
    · simp [doDeed, goOff, arms?, Moment.releases, brings?]
    · have timers : (t.doDeed (.goOff place)).timers = t.timers.modify place fun timer =>
          { timer with ringing := timer.ringing || !timer.finished } := rfl
      rw [isArmed_of_keeping timers fun _ => rfl]
      simp [arms?, callsOff?, Moment.releases, brings?]
  | bring place => exact tends_bring t place
  | cancel place =>
    refine ⟨?_, fun _ id => ?_⟩
    · simp [doDeed, cancel, arms?, Moment.releases, brings?]
    · have calls : t.isArmed id = true → (t.callsOff? (.cancel place) ≠ some id ↔ place ≠ id) := by
        intro armed
        rw [callsOff?]
        by_cases here : place = id
        · simp [here, armed]
        · simp [here]
      have timers : (t.doDeed (.cancel place)).timers = t.timers.modify place fun timer =>
          { timer with finished := true } := rfl
      rw [isArmed_of_finishing timers fun _ => rfl, and_congr_right fun armed => (calls armed).symm]
      simp [arms?, Moment.releases, brings?]
  | shutdown => exact tends_shutdown t

/-- Only an armed timer is called off, and that is no release. -/
theorem armed_of_callsOff (calls : t.callsOff? deed = some id) :
    t.isArmed id = true ∧ (Moment.mk t deed).releases id = false ∧ deed = .cancel id := by
  cases deed with
  | cancel place =>
    rw [callsOff?] at calls
    split at calls
    case isTrue armed =>
      obtain rfl := Option.some.inj calls
      exact ⟨armed, rfl, rfl⟩
    case isFalse => cases calls
  | execute | runAfter | fire | goOff | bring | shutdown => cases calls

/-- A timer that is armed has not been there before. -/
theorem eq_length_of_arms (arms : t.arms? deed = some id) : id = t.timers.length := by
  cases deed with
  | runAfter callback delay =>
    rw [arms?] at arms
    split at arms
    · cases arms
    · exact (Option.some.inj arms).symm
  | execute | fire | goOff | bring | cancel | shutdown => cases arms

end Deeds

section Abandoned

variable {past : List (Moment κ)} {moment : Moment κ} {id : Nat}

theorem abandoned_concat (past : List (Moment κ)) (moment : Moment κ) :
    abandoned (past ++ [moment]) = (abandoned past).filter (fun id => !moment.releases id)
      ++ (moment.thread.callsOff? moment.deed).toList := by
  induction past with
  | nil => simp [abandoned]
  | cons first rest ih =>
    rw [List.cons_append, abandoned, abandoned, ih, List.filter_append, List.filter_filter,
      List.append_assoc]
    congr 1
    refine List.filter_congr fun id _ => ?_
    rw [List.all_append, List.all_cons, List.all_nil, Bool.and_true, Bool.and_comm]

theorem mem_abandoned_iff : id ∈ abandoned past ↔ Abandoned past id := by
  induction past with
  | nil => simp [abandoned, Abandoned]
  | cons first rest ih =>
    rw [abandoned, List.mem_append, ih, List.mem_filter, Option.mem_toList]
    constructor
    · rintro (⟨calls, spared⟩ | ⟨before, thread, after, rfl, armed, spared⟩)
      · obtain ⟨armed, -, deed⟩ := armed_of_callsOff calls
        refine ⟨[], first.thread, rest, ?_, armed, fun moment member => ?_⟩
        · rw [List.nil_append, ← deed]
        · simpa using List.all_eq_true.mp spared moment member
      · exact ⟨first :: before, thread, after, rfl, armed, spared⟩
    · rintro ⟨before, thread, after, split, armed, spared⟩
      cases before with
      | nil =>
        obtain ⟨rfl, rfl⟩ := List.cons.inj split
        refine .inl ⟨if_pos armed, List.all_eq_true.mpr fun moment member => ?_⟩
        rw [spared moment member]
        rfl
      | cons _ before =>
        obtain ⟨rfl, rfl⟩ := List.cons.inj split
        exact .inr ⟨before, thread, after, rfl, armed, spared⟩

end Abandoned

section Account

variable {t u v : CallbackThread κ} {past : List (Moment κ)}

/-- How a thread that came to be by these deeds stands to its timers. -/
structure Account (t : CallbackThread κ) (past : List (Moment κ)) : Prop where
  tracked : ∀ id, id ∈ t.tracked ↔ t.isArmed id = true ∨ id ∈ abandoned past
  distinct : t.tracked.Nodup
  known : ∀ id ∈ t.tracked, id < t.timers.length
  apart : ∀ id ∈ abandoned past, t.isArmed id = false
  once : (abandoned past).Nodup

theorem account_new (name : Text) : Account ({ name := name } : CallbackThread κ) [] where
  tracked id := by simp [isArmed, abandoned]
  distinct := List.nodup_nil
  known _ member := by cases member
  apart _ member := by cases member
  once := List.nodup_nil

theorem Account.of_same (account : Account t past) (same : SameTimers t u) : Account u past where
  tracked id := by
    rw [← same.tracked, isArmed_of_timers same.timers.symm]
    exact account.tracked id
  distinct := same.tracked ▸ account.distinct
  known := by
    rw [← same.tracked, ← same.timers]
    exact account.known
  apart id member := by
    rw [isArmed_of_timers same.timers.symm]
    exact account.apart id member
  once := account.once

/-- Every deed keeps the account. -/
theorem Account.doDeed (account : Account t past) (deed : Deed κ) :
    Account (t.doDeed deed) (past ++ [⟨t, deed⟩]) := by
  have tends := tends_doDeed t deed
  have armed_iff := tends.armed fun id armed => (account.tracked id).mpr (.inl armed)
  have tracked_iff (id : Nat) : id ∈ (t.doDeed deed).tracked ↔
      id ∈ t.tracked ∧ (Moment.mk t deed).releases id = false ∨ t.arms? deed = some id := by
    rw [tends.tracked, List.mem_append, List.mem_filter, Option.mem_toList, Bool.not_eq_true']
  have abandoned_iff (id : Nat) : id ∈ abandoned (past ++ [⟨t, deed⟩]) ↔
      id ∈ abandoned past ∧ (Moment.mk t deed).releases id = false
        ∨ t.callsOff? deed = some id := by
    rw [abandoned_concat, List.mem_append, List.mem_filter, Option.mem_toList, Bool.not_eq_true']
  have unarmed {id : Nat} (old : id ∈ t.tracked) : t.arms? deed ≠ some id := fun arms =>
    Nat.ne_of_lt (account.known id old) (eq_length_of_arms arms)
  have called {id : Nat} (calls : t.callsOff? deed = some id) :
      id ∈ t.tracked ∧ t.isArmed id = true ∧ (Moment.mk t deed).releases id = false := by
    obtain ⟨armed, kept, -⟩ := armed_of_callsOff calls
    exact ⟨(account.tracked id).mpr (.inl armed), armed, kept⟩
  constructor
  case tracked =>
    intro id
    rw [tracked_iff, armed_iff, abandoned_iff, account.tracked]
    constructor
    · rintro (⟨armed | gone, kept⟩ | arms)
      · by_cases calls : t.callsOff? deed = some id
        · exact .inr (.inr calls)
        · exact .inl (.inl ⟨armed, kept, calls⟩)
      · exact .inr (.inl ⟨gone, kept⟩)
      · exact .inl (.inr arms)
    · rintro ((⟨armed, kept, -⟩ | arms) | ⟨gone, kept⟩ | calls)
      · exact .inl ⟨.inl armed, kept⟩
      · exact .inr arms
      · exact .inl ⟨.inr gone, kept⟩
      · exact .inl ⟨.inl (called calls).2.1, (called calls).2.2⟩
  case distinct =>
    rw [tends.tracked, List.nodup_append]
    refine ⟨account.distinct.filter _, ?_, ?_⟩
    · cases t.arms? deed <;> simp
    · rintro id member other arms rfl
      exact unarmed (List.mem_filter.mp member).1 (Option.mem_toList.mp arms)
  case known =>
    intro id member
    obtain ⟨old, -⟩ | arms := (tracked_iff id).mp member
    · obtain ⟨later, known, -⟩ := (t.comes_doDeed deed).aged id _
        (List.getElem?_eq_getElem (account.known id old))
      exact (List.getElem?_eq_some_iff.mp known).1
    · obtain ⟨timer, known, -⟩ := isArmed_iff.mp ((armed_iff id).mpr (.inr arms))
      exact (List.getElem?_eq_some_iff.mp known).1
  case apart =>
    intro id member
    refine Bool.eq_false_iff.mpr fun armed => ?_
    rcases (abandoned_iff id).mp member with ⟨gone, -⟩ | calls
    · rcases (armed_iff id).mp armed with ⟨before, -, -⟩ | arms
      · exact Bool.false_ne_true ((account.apart id gone).symm.trans before)
      · exact unarmed ((account.tracked id).mpr (.inr gone)) arms
    · rcases (armed_iff id).mp armed with ⟨-, -, other⟩ | arms
      · exact other calls
      · exact unarmed (called calls).1 arms
  case once =>
    rw [abandoned_concat, List.nodup_append]
    refine ⟨account.once.filter _, ?_, ?_⟩
    · cases t.callsOff? deed <;> simp
    · rintro id member other calls rfl
      have gone := account.apart id (List.mem_filter.mp member).1
      exact Bool.false_ne_true (gone.symm.trans (called (Option.mem_toList.mp calls)).2.1)

theorem Passes.account {name : Text} (passes : Passes { name := name } past v) :
    Account v past := by
  induction past using List.reverseRecOn generalizing v with
  | nil => exact (account_new name).of_same passes
  | append_singleton before moment ih =>
    obtain ⟨earlier, same⟩ := passes.split
    exact ((ih earlier).doDeed moment.deed).of_same same

end Account

section Law

variable {t : CallbackThread κ} {past : List (Moment κ)}

/-- Which timers a thread keeps, in a state `t` with the deeds of the past that led to it. -/
structure TrackLaw (t : CallbackThread κ) (past : List (Moment κ)) : Prop where
  /-- Those that are armed and those that were abandoned, each once. -/
  tracked : t.tracked.Perm (t.armed ++ abandoned past)
  abandoned : ∀ id, id ∈ abandoned past ↔ Abandoned past id
  /-- None but those that are armed, just if none was abandoned. -/
  exact : (∀ id, id ∈ t.tracked ↔ t.isArmed id = true) ↔ ∀ id, ¬ Abandoned past id
  /-- None at all, just if moreover none is armed. -/
  empty : t.tracked = [] ↔ (∀ id, t.isArmed id = false) ∧ ∀ id, ¬ Abandoned past id

theorem Account.trackLaw (account : Account t past) : TrackLaw t past where
  tracked := by
    refine (List.perm_ext_iff_of_nodup account.distinct ?_).mpr fun id => ?_
    · refine List.nodup_append.mpr ⟨List.nodup_range.filter _, account.once, ?_⟩
      rintro id armed other gone rfl
      rw [mem_armed_iff, account.apart id gone] at armed
      cases armed
    · rw [List.mem_append, mem_armed_iff, account.tracked]
  abandoned id := mem_abandoned_iff
  exact := by
    refine forall_congr' fun id => ?_
    rw [account.tracked, ← mem_abandoned_iff, or_iff_left_iff_imp]
    constructor
    · intro only gone
      exact Bool.false_ne_true ((account.apart id gone).symm.trans (only gone))
    · exact fun none gone => absurd gone none
  empty := by
    rw [List.eq_nil_iff_forall_not_mem, ← forall_and]
    refine forall_congr' fun id => ?_
    rw [account.tracked, not_or, Bool.not_eq_true, mem_abandoned_iff]

/-- In every state of a thread, whoever does what to it and whatever its callbacks do, in the middle
of a callback, too, it keeps exactly the timers that are armed, unless an armed one was called off
since the last shutdown and has brought nothing since: each of those is kept as well. -/
theorem trackLaw_run (script : Script κ) (name : Text) (events : List (Event κ)) :
    TrackLaw (run script.perform { name := name } events)
        (history script { name := name } events)
      ∧ ∀ before moment after,
        history script { name := name } events = before ++ moment :: after →
        TrackLaw moment.thread before := by
  have passes := passes_history script { name := name } events
  refine ⟨passes.account.trackLaw, fun before moment after split => ?_⟩
  rw [split] at passes
  exact passes.split.1.account.trackLaw

def idle : Script Nat := fun _ _ => ([], none)

/-- A timer that is called off when it has gone off already, and brings its callback all the same.
-/
def belated : List (Event Nat) :=
  [.deed (.runAfter 7 90), .deed (.goOff 0), .deed (.cancel 0), .deed (.bring 0)]

/-- In between the timer is kept though it is not armed, at the end no more. -/
theorem trackLaw_run_belated :
    (run idle.perform { name := defaultName } belated).tracked = []
      ∧ TrackLaw (run idle.perform { name := defaultName } belated)
        (history idle { name := defaultName } belated)
      ∧ ∃ before moment, history idle { name := defaultName } belated = before ++ [moment]
        ∧ moment.thread.tracked = [0] ∧ moment.thread.armed = [] ∧ abandoned before = [0]
        ∧ TrackLaw moment.thread before := by
  have law := trackLaw_run idle defaultName belated
  have split : history idle { name := defaultName } belated =
      (history idle { name := defaultName } belated).take 3
        ++ (history idle { name := defaultName } belated).drop 3 := (List.take_append_drop 3 _).symm
  exact ⟨rfl, law.1, _, _, split, rfl, rfl, rfl, law.2 _ _ [] split⟩

end Law

end TransferProof.CallbackThread

namespace TransferProof.Fleet

/-- To terminate a verifier takes no timer from those that the thread keeps. -/
theorem tracked_terminate (s : Fleet) (verifier : Nat) :
    (s.terminate verifier).thread.tracked = s.thread.tracked := by
  rw [terminate]
  split
  case h_1 v found =>
    rw [obey, Verifier.terminate, Verifier.cancellations]
    cases v.timer <;> rfl
  case h_2 => rfl

/-- Two verifiers, one after the other, each of which hears that the transfer is unknown so far and
is terminated while it waits for its next poll. -/
def forsaken : List Event :=
  [0, 1].flatMap fun v =>
    [.start v, .enter ⟨v, v⟩, .begin, .hook ⟨v, v⟩, .listen ⟨v, v⟩,
      .finish ⟨v, v⟩ (.ok (.outcome (.pending (.ofKind .txNotFound)))),
      .proceed, .proceed, .proceed, .terminate v]

/-- A timer that was called off is kept, and so are those of all verifiers that were terminated. -/
theorem called_off_timer_is_kept :
    (CallbackThread.run CallbackThread.idle.perform { name := CallbackThread.defaultName }
          [.deed (.runAfter 7 90), .deed (.cancel 0)]).tracked = [0]
      ∧ (CallbackThread.run CallbackThread.idle.perform { name := CallbackThread.defaultName }
          [.deed (.runAfter 7 90), .deed (.cancel 0)]).armed = []
      ∧ ((ofRequests twice { name := "pool", workers := 1, capacity := 1, free := 1 } 5 []).run
          forsaken).verifiers.map Verifier.terminated = [true, true]
      ∧ ((ofRequests twice { name := "pool", workers := 1, capacity := 1, free := 1 } 5 []).run
          forsaken).thread.tracked = [0, 1]
      ∧ ((ofRequests twice { name := "pool", workers := 1, capacity := 1, free := 1 } 5 []).run
          forsaken).thread.armed = [] := by
  decide +kernel

end TransferProof.Fleet
