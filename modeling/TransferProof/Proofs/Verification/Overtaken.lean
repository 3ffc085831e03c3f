import TransferProof.Proofs.Verification.Silence

/-!
# Timers that are overtaken

A verifier holds one timer, the one that it armed last, and calls it off when it ends. If it was
started more than once it may arm a timer while another one is still armed. The older one is then
overtaken: nothing but its firing disarms it. So the timers that are armed after the end are exactly
those that were overtaken and have not fired since.
-/

namespace TransferProof.Verification

open Verifier

/-- The timers are what they were, and so is what the verifier knows of them. -/
structure Still (s t : Verification) : Prop where
  timers : t.timers = s.timers
  fresh : t.fresh = s.fresh
  held : t.verifier.timer = s.verifier.timer
  ended : t.verifier.terminated = s.verifier.terminated

/-- What the parts of a step do to the timers. Only such timers fire. -/
inductive Turn (can : Event → Prop) (s t : Verification) : Prop where
  | still (still : Still s t)
  | armed {timer : Timer} (live : s.verifier.terminated = false) (next : timer.id = s.fresh)
      (timers : t.timers = s.timers ++ [timer]) (fresh : t.fresh = s.fresh + 1)
      (held : t.verifier.timer = some timer) (lives : t.verifier.terminated = false)
  | stopped (timers : t.timers = s.timers.filter fun timer => s.verifier.timer != some timer)
      (fresh : t.fresh = s.fresh) (held : t.verifier.timer = none)
      (ended : t.verifier.terminated = true)
  | fired {timer : Timer} (allowed : can (.fire timer))
      (timers : t.timers = s.timers.filter (· != timer)) (fresh : t.fresh = s.fresh)
      (held : t.verifier.timer = s.verifier.timer)
      (ended : t.verifier.terminated = s.verifier.terminated)

section Parts

variable {can : Event → Prop} {s : Verification}

theorem still_opening {queue : List Callback} {d : Decision}
    (opening : Opening s.verifier s.clock d) : Still s ({ s with queue := queue }.adopt d).1 := by
  cases opening with
  | refuse ended record => exact ⟨rfl, rfl, rfl, rfl⟩
  | tooLate live overdue => exact ⟨rfl, rfl, rfl, rfl⟩
  | poll live timely =>
    rw [adopt, carryOutAll, carryOut]
    cases s.poolOpen with
    | true => exact ⟨rfl, rfl, rfl, rfl⟩
    | false => exact ⟨rfl, rfl, rfl, rfl⟩

theorem still_finish (s : Verification) (result : PollResult) : Still s (s.finish result) := by
  rw [finish]
  split <;> exact ⟨rfl, rfl, rfl, rfl⟩

theorem turn_terminate (s : Verification) :
    Turn can s ({ s with verifier := s.verifier.stopped }.callOff s.verifier.timer) := by
  refine .stopped ?_ ?_ ?_ ?_
  · rw [callOff_timers]
  · rw [callOff_fresh]
  · rw [callOff_verifier, stopped]
  · rw [callOff_verifier, stopped]

theorem storing_timer (v : Verifier) (callback : Callback) :
    (v.storing callback).timer = v.timer := by
  unfold storing
  split <;> rfl

theorem turn_ruling {callback : Callback} {rest : List Callback} {d : Decision}
    (ruling : Ruling s.verifier s.clock s.fresh callback d) :
    Turn can s ({ s with queue := rest }.adopt d).1 := by
  cases ruling with
  | reopen opening => exact .still (still_opening opening)
  | drop ended records =>
    rw [adopt_log]
    exact .still ⟨rfl, rfl, storing_timer _ _, storing_terminated _ _⟩
  | ignore live strange records =>
    rw [adopt_log]
    exact .still ⟨rfl, rfl, storing_timer _ _, storing_terminated _ _⟩
  | @wait outcome timer live tag timely next =>
    have number : timer.id = s.fresh := by rw [next]
    exact .armed live number rfl rfl rfl live
  | conclude live ending records =>
    rw [adopt_conclude]
    refine .stopped ?_ ?_ ?_ ?_
    · rw [callOff_timers, noted]
    · rw [callOff_fresh, noted]
    · rw [callOff_verifier, noted, stopped]
    · rw [callOff_verifier, noted, stopped]

theorem turn_fire {timer : Timer} (allowed : can (.fire timer)) : Turn can s (s.fire timer) := by
  rw [fire]
  split
  · exact .fired allowed rfl rfl rfl rfl
  · exact .still ⟨rfl, rfl, rfl, rfl⟩

/-- What every turn keeps lasts through every run in which only such timers fire. -/
theorem run_of_turns (can : Event → Prop) {P : Verification → Prop}
    (keeps : ∀ {s t}, Turn can s t → P s → P t) {events : List Event}
    (allowed : ∀ event ∈ events, can event) (h : P s) : P (s.run events) := by
  have rests {s t : Verification} (h : P s) (still : Still s t) : P t := keeps (.still still) h
  have endures : Enduring (fun _ => True) (fun _ => can) fun _ => P := {
    starts := fun _ => trivial
    opened := fun _ h opening => rests h (still_opening opening)
    terminated := fun h => keeps (turn_terminate _) h
    lingered := fun _ _ h => rests h ⟨rfl, rfl, rfl, rfl⟩
    reported := fun h => rests h ⟨rfl, rfl, rfl, rfl⟩
    delivered := fun h => rests h ⟨rfl, rfl, rfl, rfl⟩
    abandoned := id
    failed := fun _ h => rests h ⟨rfl, rfl, rfl, rfl⟩
    ruled := fun _ h _ ruling => keeps (turn_ruling ruling) h
    finished := fun _ h => rests h (still_finish _ _)
    fired := fun allowed h => keeps (turn_fire allowed) h
    ticked := fun _ h => rests h ⟨rfl, rfl, rfl, rfl⟩
    closed := fun _ h => rests h ⟨rfl, rfl, rfl, rfl⟩ }
  exact (endures.run (along_of_forall s allowed) (follows_any s) h).2

/-- Handlers arm no timer, and what comes from outside arms none either. -/
theorem enduring_fresh (n : Nat) :
    Enduring (fun _ => True) (fun _ event => event ≠ .runNext) fun _ t => t.fresh = n where
  starts := fun _ => trivial
  opened := fun _ same opening => (still_opening opening).fresh.trans same
  terminated := fun same => (callOff_fresh _ _).trans same
  lingered := fun _ _ same => same
  reported := fun same => same
  delivered := fun same => same
  abandoned := id
  failed := fun _ same => same
  ruled := fun other => absurd rfl other
  finished := fun _ same => (still_finish _ _).fresh.trans same
  fired := by
    intro s timer _ same
    rw [fire]
    split <;> exact same
  ticked := fun _ same => same
  closed := fun _ same => same

theorem fresh_runNext_le (s : Verification) : s.runNext.fresh ≤ s.fresh + 1 := by
  cases queued : s.queue with
  | nil =>
    rw [runNext, queued]
    exact Nat.le_succ _
  | cons callback rest =>
    have ruling := ruling_run s.verifier s.clock s.fresh callback
    have turn : Turn (fun _ => True) s ({ s with queue := rest }.adopt
        (s.verifier.run s.clock s.fresh callback)).1 := turn_ruling ruling
    have decided : ({ s with queue := rest }.adopt
        (s.verifier.run s.clock s.fresh callback)).1.fresh ≤ s.fresh + 1 := by
      cases turn with
      | still still => exact Nat.le_succ_of_le (Nat.le_of_eq still.fresh)
      | armed live next timers fresh held lives => exact Nat.le_of_eq fresh
      | stopped timers fresh held ended => exact Nat.le_succ_of_le (Nat.le_of_eq fresh)
      | fired allowed timers fresh held ended => exact Nat.le_succ_of_le (Nat.le_of_eq fresh)
    -- The handlers that are called after the ruling leave the number as it is.
    have told := (enduring_fresh _).noting ((enduring_fresh _).enact (s := { s with queue := rest })
      (fun _ => ruling.tail_final) (follows_any s) rfl)
    rw [runNext_eq queued, told.2]
    exact decided

/-- A step arms one timer at most. -/
theorem fresh_step_le (s : Verification) (event : Event) :
    (s.step event).fresh ≤ s.fresh + 1 := by
  by_cases runs : event = .runNext
  · rw [runs]
    exact fresh_runNext_le s
  · have same := ((enduring_fresh s.fresh).step runs (follows_any s) rfl).2
    omega

end Parts

/-- Timers are numbered in the order in which they are armed. The verifier holds the last of them,
until it has ended. -/
structure Numbered (s : Verification) : Prop where
  below : ∀ timer ∈ s.timers, timer.id < s.fresh
  last : ∀ timer, s.verifier.timer = some timer → timer.id + 1 = s.fresh
  held : ∀ timer ∈ s.timers, timer.id + 1 = s.fresh → s.verifier.timer = some timer
  ended : s.verifier.terminated = true → s.verifier.timer = none

theorem numbered_ofRequest (request : Request) (clock : Seconds)
    (onResult onFault : List Reaction) :
    Numbered (ofRequest request clock onResult onFault) where
  below := fun _ member => absurd member List.not_mem_nil
  last := nofun
  held := fun _ member => absurd member List.not_mem_nil
  ended := nofun

/-- The timer is armed, and a later one has been armed. -/
structure Behind (timer : Timer) (s : Verification) : Prop where
  armed : timer ∈ s.timers
  older : timer.id + 1 < s.fresh

namespace Turn

variable {can : Event → Prop} {s t : Verification}

theorem numbered (turn : Turn can s t) (numbered : Numbered s) : Numbered t := by
  cases turn with
  | still still =>
    obtain ⟨timers, fresh, held, ended⟩ := still
    constructor
    · simpa only [timers, fresh] using numbered.below
    · simpa only [held, fresh] using numbered.last
    · simpa only [timers, held, fresh] using numbered.held
    · simpa only [held, ended] using numbered.ended
  | @armed timer live next timers fresh held lives =>
    constructor
    · intro other member
      rw [timers, List.mem_append, List.mem_singleton] at member
      rcases member with old | rfl
      · have := numbered.below other old
        omega
      · omega
    · intro other same
      obtain rfl : timer = other := Option.some.inj (held.symm.trans same)
      omega
    · intro other member number
      rw [timers, List.mem_append, List.mem_singleton] at member
      rcases member with old | rfl
      · have := numbered.below other old
        omega
      · exact held
    · intro ended
      simp [lives] at ended
  | stopped timers fresh held ended =>
    constructor
    · intro timer member
      rw [timers, List.mem_filter] at member
      have := numbered.below timer member.1
      omega
    · intro timer same
      simp [held] at same
    · intro timer member number
      rw [timers, List.mem_filter] at member
      have same := numbered.held timer member.1 (by omega)
      simp [same] at member
    · intro _
      exact held
  | fired allowed timers fresh held ended =>
    constructor
    · intro timer member
      rw [timers, List.mem_filter] at member
      have := numbered.below timer member.1
      omega
    · simpa only [held, fresh] using numbered.last
    · intro timer member number
      rw [timers, List.mem_filter] at member
      rw [held]
      exact numbered.held timer member.1 (by omega)
    · simpa only [held, ended] using numbered.ended

/-- A timer that is armed was so before, or has a later number. -/
theorem younger (turn : Turn can s t) :
    s.fresh ≤ t.fresh ∧ ∀ timer ∈ t.timers, timer ∈ s.timers ∨ s.fresh ≤ timer.id := by
  cases turn with
  | still still => simp +contextual [still.timers, still.fresh]
  | @armed timer live next timers fresh held lives =>
    refine ⟨by omega, fun other member => ?_⟩
    rw [timers, List.mem_append, List.mem_singleton] at member
    rcases member with old | rfl
    · exact Or.inl old
    · exact Or.inr (by omega)
  | stopped timers fresh held ended => simp +contextual [timers, fresh]
  | fired allowed timers fresh held ended => simp +contextual [timers, fresh]

/-- A timer that has been overtaken is not held any more, so that only its firing disarms it. -/
theorem behind {timer : Timer} (turn : Turn can s t) (numbered : Numbered s)
    (spared : ¬ can (.fire timer)) (behind : Behind timer s) : Behind timer t := by
  obtain ⟨armed, older⟩ := behind
  cases turn with
  | still still => exact ⟨by rwa [still.timers], by rwa [still.fresh]⟩
  | armed live next timers fresh held lives =>
    refine ⟨?_, by omega⟩
    rw [timers]
    exact List.mem_append_left _ armed
  | stopped timers fresh held ended =>
    refine ⟨?_, by omega⟩
    rw [timers, List.mem_filter, bne_iff_ne]
    refine ⟨armed, fun same => ?_⟩
    have := numbered.last timer same
    omega
  | fired allowed timers fresh held ended =>
    refine ⟨?_, by omega⟩
    rw [timers, List.mem_filter, bne_iff_ne]
    refine ⟨armed, ?_⟩
    rintro rfl
    exact spared allowed

end Turn

section Runs

variable {s : Verification} {timer : Timer}

theorem Numbered.run (numbered : Numbered s) (events : List Event) : Numbered (s.run events) :=
  run_of_turns (fun _ => True) Turn.numbered (fun _ _ => trivial) numbered

theorem younger_run (s : Verification) (events : List Event) : s.fresh ≤ (s.run events).fresh
    ∧ ∀ timer ∈ (s.run events).timers, timer ∈ s.timers ∨ s.fresh ≤ timer.id := by
  refine run_of_turns (fun _ => True) (P := fun t => s.fresh ≤ t.fresh
    ∧ ∀ timer ∈ t.timers, timer ∈ s.timers ∨ s.fresh ≤ timer.id) ?_ (fun _ _ => trivial)
    ⟨Nat.le_refl _, fun _ => Or.inl⟩
  rintro t u turn ⟨grown, old⟩
  obtain ⟨grows, younger⟩ := turn.younger
  refine ⟨by omega, fun timer member => ?_⟩
  rcases younger timer member with before | new
  · exact old timer before
  · exact Or.inr (by omega)

/-- As long as it does not fire, a timer that is armed stays so until the end or until another one
is armed, and if that comes first it stays so for good. -/
theorem behind_run (numbered : Numbered s) (armed : timer ∈ s.timers) {events : List Event}
    (spared : ∀ event ∈ events, event ≠ .fire timer) :
    ((s.run events).fresh = s.fresh
        ∧ (timer ∈ (s.run events).timers ∨ (s.run events).verifier.terminated = true))
      ∨ Behind timer (s.run events) := by
  refine (run_of_turns (· ≠ .fire timer) (P := fun t => Numbered t
    ∧ ((t.fresh = s.fresh ∧ (timer ∈ t.timers ∨ t.verifier.terminated = true)) ∨ Behind timer t))
    ?_ spared ⟨numbered, Or.inl ⟨rfl, Or.inl armed⟩⟩).2
  rintro t u turn ⟨numbers, kept⟩
  refine ⟨turn.numbered numbers, ?_⟩
  rcases kept with ⟨same, here⟩ | behind
  · cases turn with
    | still still =>
      refine Or.inl ⟨still.fresh.trans same, ?_⟩
      rwa [still.timers, still.ended]
    | @armed next live number timers fresh held lives =>
      have among : timer ∈ t.timers := by simpa [live] using here
      have := numbers.below timer among
      refine Or.inr ⟨?_, by omega⟩
      rw [timers]
      exact List.mem_append_left _ among
    | stopped timers fresh held ended => exact Or.inl ⟨fresh.trans same, Or.inr ended⟩
    | @fired other allowed timers fresh held ended =>
      refine Or.inl ⟨fresh.trans same, ?_⟩
      rw [timers, ended, List.mem_filter, bne_iff_ne]
      refine here.imp_left fun among => ⟨among, ?_⟩
      rintro rfl
      exact allowed rfl
  · exact Or.inr (turn.behind numbers (fun fires => fires rfl) behind)

def Overtakes (event : Event) (s : Verification) (timer : Timer) : Prop :=
  timer ∈ s.timers ∧ s.fresh < (s.step event).fresh

/-- In the course of these events the timer is overtaken, and from there on it does not fire. -/
def LeftOver (s : Verification) (events : List Event) (timer : Timer) : Prop :=
  ∃ before event after, events = before ++ event :: after
    ∧ Overtakes event (s.run before) timer ∧ .fire timer ∉ after

/-- There is an event with which timers come to be numbered beyond `n`. -/
theorem exists_passing {n : Nat} {events : List Event} (low : s.fresh ≤ n)
    (high : n < (s.run events).fresh) : ∃ before event after, events = before ++ event :: after
      ∧ (s.run before).fresh ≤ n ∧ n < ((s.run before).step event).fresh := by
  induction events generalizing s with
  | nil => exact absurd high (Nat.not_lt.mpr low)
  | cons event rest ih =>
    by_cases passes : n < (s.step event).fresh
    · exact ⟨[], event, rest, rfl, low, passes⟩
    · obtain ⟨before, passing, after, rfl, lower, higher⟩ := ih (Nat.not_lt.mp passes) high
      exact ⟨event :: before, passing, after, rfl, lower, higher⟩

theorem run_snoc (s : Verification) (before : List Event) (event : Event) (after : List Event) :
    s.run (before ++ event :: after) = ((s.run before).step event).run after :=
  run_append s before (event :: after)

/-- A timer that has fired is not armed again. -/
theorem not_mem_of_fired (older : timer.id < s.fresh) (events : List Event) :
    timer ∉ ((s.fire timer).run events).timers := by
  intro member
  have same : (s.fire timer).fresh = s.fresh := by
    rw [fire]
    split <;> rfl
  rcases (younger_run (s.fire timer) events).2 timer member with armed | new
  · rw [fire] at armed
    split at armed
    · simp at armed
    · contradiction
  · omega

theorem LeftOver.mem {events : List Event} (numbered : Numbered s)
    (ended : (s.run events).verifier.terminated = true) (left : LeftOver s events timer) :
    timer ∈ (s.run events).timers := by
  obtain ⟨before, event, after, rfl, ⟨armed, overtaken⟩, spared⟩ := left
  rw [run_snoc] at ended ⊢
  have grows := (younger_run ((s.run before).step event) after).1
  have spares : ∀ e ∈ event :: after, e ≠ .fire timer := by
    intro e member
    rcases List.mem_cons.mp member with rfl | later
    · rintro rfl
      have same : ((s.run before).step (.fire timer)).fresh = (s.run before).fresh := by
        rw [step, fire]
        split <;> rfl
      omega
    · rintro rfl
      exact spared later
  rcases behind_run (numbered.run before) armed spares with ⟨same, -⟩ | behind
  · change (((s.run before).step event).run after).fresh = _ at same
    omega
  · exact behind.armed

theorem leftOver_of_mem {events : List Event} (numbered : Numbered s)
    (fresh : s.fresh = 0) (ended : (s.run events).verifier.terminated = true)
    (armed : timer ∈ (s.run events).timers) : LeftOver s events timer := by
  have numbers := numbered.run events
  have older : timer.id + 1 < (s.run events).fresh := by
    have below := numbers.below timer armed
    have notLast : timer.id + 1 ≠ (s.run events).fresh := by
      intro last
      have held := numbers.held timer armed last
      rw [numbers.ended ended] at held
      cases held
    omega
  obtain ⟨before, event, after, rfl, low, high⟩ := exists_passing (by omega) older
  have step := fresh_step_le (s.run before) event
  refine ⟨before, event, after, rfl, ⟨?_, by omega⟩, ?_⟩
  · rw [run_append] at armed
    rcases (younger_run (s.run before) _).2 timer armed with old | new
    · exact old
    · omega
  · intro fires
    obtain ⟨first, second, rfl⟩ := List.append_of_mem fires
    rw [run_snoc, run_snoc] at armed
    have grows := (younger_run ((s.run before).step event) first).1
    exact not_mem_of_fired (by omega) second armed

/-- Of a verifier that has ended, whether by itself or because it was terminated, exactly those
timers are armed that were overtaken and have not fired since. So there are none if no timer was
armed while another one was, or if all that were overtaken have fired. -/
theorem armed_iff_leftOver {request : Request} {clock : Seconds} {onResult onFault : List Reaction}
    {events : List Event} {s : Verification}
    (reached : s = (ofRequest request clock onResult onFault).run events)
    (ended : s.verifier.terminated = true) :
    (∀ timer, timer ∈ s.timers ↔ LeftOver (ofRequest request clock onResult onFault) events timer)
      ∧ (s.timers = [] ↔
        ∀ timer, ¬ LeftOver (ofRequest request clock onResult onFault) events timer) := by
  subst reached
  have numbered := numbered_ofRequest request clock onResult onFault
  have armed_iff (timer : Timer) :
      timer ∈ ((ofRequest request clock onResult onFault).run events).timers ↔
        LeftOver (ofRequest request clock onResult onFault) events timer :=
    ⟨leftOver_of_mem numbered rfl ended, LeftOver.mem numbered ended⟩
  refine ⟨armed_iff, ?_⟩
  rw [List.eq_nil_iff_forall_not_mem]
  exact forall_congr' fun timer => not_congr (armed_iff timer)

end Runs

def startedTwice : List Event :=
  [.start, .start, .finish (.ok (.outcome (.pending (.ofKind .txNotFound)))), .runNext, .tick 6,
    .finish (.ok (.outcome (.pending (.ofKind .txNotFound)))), .runNext]

/-- If the timer that was overtaken fires before the end, none is left. -/
theorem armed_iff_leftOver_fired :
    ((small []).run (startedTwice ++ [.fire ⟨0, 95⟩, .terminate])).timers = []
      ∧ ∀ timer, ¬ LeftOver (small []) (startedTwice ++ [.fire ⟨0, 95⟩, .terminate]) timer := by
  have none : ((small []).run (startedTwice ++ [.fire ⟨0, 95⟩, .terminate])).timers = [] := by
    decide +kernel
  exact ⟨none, (armed_iff_leftOver rfl (by decide +kernel)).2.mp none⟩

/-- The first of two timers is still armed after the end. -/
theorem first_timer_is_left_over :
    ((small []).run (startedTwice ++ [.terminate])).verifier.terminated = true
      ∧ ((small []).run (startedTwice ++ [.terminate])).timers = [⟨0, 95⟩] := by
  decide +kernel

end TransferProof.Verification
