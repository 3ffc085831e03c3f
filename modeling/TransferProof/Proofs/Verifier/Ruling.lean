import TransferProof.Verifier

/-!
# The rulings of a verifier

Every decision about a callback is one of five rulings, each given with the conditions on which it
is made. The properties of a verifier are proved by cases on its rulings and not by unfolding its
decisions. What the log says is left open.
-/

namespace TransferProof

/-- Something is asked for that will be done later: a poll or a callback. -/
def Effect.isWork : Effect → Bool
  | .submit => true
  | .enqueue _ => true
  | _ => false

namespace Verifier

inductive Opening (v : Verifier) (now : Seconds) : Decision → Prop where
  | refuse (ended : v.terminated = true) (record : LogRecord) :
      Opening v now { verifier := v, effects := [.log record] }
  | tooLate (live : v.terminated = false) (overdue : v.isOverdue now = true) :
      Opening v now { verifier := v, effects := [.enqueue .giveUp] }
  | poll (live : v.terminated = false) (timely : v.isOverdue now = false) :
      Opening v now { verifier := v, effects := [.submit] }

/-- The state with the outcome that a callback brings, if it brings one. -/
def storing (v : Verifier) : Callback → Verifier
  | .polled (.ok (.outcome outcome)) => { v with outcome := some outcome }
  | _ => v

@[simp] theorem storing_terminated (v : Verifier) (callback : Callback) :
    (v.storing callback).terminated = v.terminated := by
  unfold storing
  split <;> rfl

@[simp] theorem storing_request (v : Verifier) (callback : Callback) :
    (v.storing callback).request = v.request := by
  unfold storing
  split <;> rfl

/-- A result that is no outcome, or an outcome of a tag that is not known. -/
inductive Strange : PollResult → Prop where
  | noOutcome (shown : Text) : Strange (.ok (.other shown))
  | unknownTag {outcome : Outcome} {name : Text} (tag : outcome.tag = .unknown name) :
      Strange (.ok (.outcome outcome))

/-- The final outcome that a callback leads to, with the notices that go before it. -/
inductive Ending (v : Verifier) (now : Seconds) : Callback → Outcome → List Notice → Prop where
  | final {outcome : Outcome}
      (tag : outcome.tag = .success ∨ outcome.tag = .failed ∨ outcome.tag = .error) :
      Ending v now (.polled (.ok (.outcome outcome))) outcome []
  | lapsed {outcome : Outcome} (tag : outcome.tag = .pending) (overdue : v.isOverdue now = true) :
      Ending v now (.polled (.ok (.outcome outcome))) overdueOutcome []
  | timeout : Ending v now .giveUp overdueOutcome []
  | fault {fault : Fault} {message : Text}
      (words : message = v.text ++ " failed with error " ++ fault.shown) :
      Ending v now (.polled (.error fault)) (.error .connectionFailure (some message))
        [.fault message fault.origin]

inductive Ruling (v : Verifier) (now : Seconds) (fresh : Nat) : Callback → Decision → Prop where
  | reopen {d : Decision} (opening : Opening v now d) : Ruling v now fresh .pollAgain d
  | drop {callback : Callback} (ended : v.terminated = true) (records : List LogRecord) :
      Ruling v now fresh callback
        { verifier := v.storing callback, effects := records.map .log }
  | ignore {result : PollResult} (live : v.terminated = false) (strange : Strange result)
      (records : List LogRecord) :
      Ruling v now fresh (.polled result)
        { verifier := v.storing (.polled result), effects := records.map .log }
  | wait {outcome : Outcome} {timer : Timer} (live : v.terminated = false)
      (tag : outcome.tag = .pending) (timely : v.isOverdue now = false)
      (next : timer = ⟨fresh, now + repeatPeriod⟩) :
      Ruling v now fresh (.polled (.ok (.outcome outcome)))
        { verifier := { v with outcome := some outcome, timer := some timer }
          effects := [.arm timer]
          notices := [.result outcome] }
  | conclude {callback : Callback} {outcome : Outcome} {before : List Notice}
      (live : v.terminated = false) (ending : Ending v now callback outcome before)
      (records : List LogRecord) :
      Ruling v now fresh callback (v.conclude outcome (records.map .log) before)

/-- A start tells nobody. -/
theorem Opening.notices_eq_nil {v : Verifier} {now : Seconds} {d : Decision}
    (opening : Opening v now d) : d.notices = [] := by
  cases opening <;> rfl

/-- A start leaves the verifier as it is. -/
theorem Opening.verifier_eq {v : Verifier} {now : Seconds} {d : Decision}
    (opening : Opening v now d) : d.verifier = v := by
  cases opening <;> rfl

/-- A poll is asked for only in time and before the end. -/
theorem Opening.of_submit {v : Verifier} {now : Seconds} {d : Decision} (opening : Opening v now d)
    (submits : .submit ∈ d.effects) : v.terminated = false ∧ v.isOverdue now = false := by
  cases opening with
  | refuse ended record => cases List.mem_singleton.mp submits
  | tooLate live overdue => cases List.mem_singleton.mp submits
  | poll live timely => exact ⟨live, timely⟩

theorem isWork_of_terminate {v : Verifier} {effect : Effect}
    (among : effect ∈ v.terminate.effects) : effect.isWork = false := by
  obtain ⟨timer, _, rfl⟩ := List.mem_map.mp among
  rfl

/-- Nothing is put into the queue but the end, and that only if it is too late for a poll. -/
theorem Opening.of_enqueue {v : Verifier} {now : Seconds} {d : Decision}
    (opening : Opening v now d) {next : Callback} (enqueues : .enqueue next ∈ d.effects) :
    next = .giveUp ∧ v.terminated = false ∧ v.isOverdue now = true := by
  cases opening with
  | refuse ended record => cases List.mem_singleton.mp enqueues
  | tooLate live overdue =>
    cases List.mem_singleton.mp enqueues
    exact ⟨rfl, live, overdue⟩
  | poll live timely => cases List.mem_singleton.mp enqueues

theorem opening_start (v : Verifier) (now : Seconds) : Opening v now (v.start now) := by
  rw [start]
  cases ended : v.terminated with
  | true => exact .refuse ended _
  | false =>
    cases overdue : v.isOverdue now with
    | true => exact .tooLate ended overdue
    | false => exact .poll ended overdue

theorem ruling_giveUp (v : Verifier) (now : Seconds) (fresh : Nat) :
    Ruling v now fresh .giveUp v.giveUp := by
  rw [giveUp]
  cases ended : v.terminated with
  | true => exact .drop ended []
  | false => exact .conclude ended .timeout [_]

theorem ruling_fail (v : Verifier) (now : Seconds) (fresh : Nat) (fault : Fault) :
    Ruling v now fresh (.polled (.error fault)) (v.fail fault) := by
  rw [fail]
  cases ended : v.terminated with
  | true => exact .drop ended [_]
  | false => exact .conclude ended (.fault rfl) []

/-- Too late for another poll, a pending outcome gives way to the timeout. The window is looked at
after the outcome was stored, which does not matter to it. -/
theorem giveUp_storing {v : Verifier} (live : v.terminated = false) (outcome : Outcome) :
    ({ v with outcome := some outcome } : Verifier).giveUp = v.giveUp := by
  have ended : ¬ v.terminated = true := by simp [live]
  rw [giveUp, giveUp, if_neg ended, if_neg ended]
  rfl

theorem ruling_accept (v : Verifier) (now : Seconds) (fresh : Nat) (outcome : Outcome) :
    Ruling v now fresh (.polled (.ok (.outcome outcome))) (v.accept now fresh outcome) := by
  rw [accept]
  dsimp only
  split
  case isTrue ended => exact .drop ended [_]
  case isFalse unended =>
    have live := Bool.eq_false_iff.mpr unended
    split
    case h_1 tag =>
      split
      case isTrue overdue =>
        rw [giveUp_storing live]
        rw [giveUp, if_neg unended]
        exact .conclude live (.lapsed tag overdue) [_]
      case isFalse timely => exact .wait live tag (Bool.eq_false_iff.mpr timely) rfl
    case h_2 tag => exact .conclude live (.final (Or.inl tag)) [_]
    case h_3 tag => exact .conclude live (.final (Or.inr (Or.inl tag))) []
    case h_4 tag => exact .conclude live (.final (Or.inr (Or.inr tag))) []
    case h_5 name tag => exact .ignore live (.unknownTag tag) [_]

/-- Every decision about a callback is a ruling. -/
theorem ruling_run (v : Verifier) (now : Seconds) (fresh : Nat) (callback : Callback) :
    Ruling v now fresh callback (v.run now fresh callback) := by
  cases callback with
  | giveUp => exact ruling_giveUp v now fresh
  | pollAgain => exact .reopen (opening_start v now)
  | polled result =>
    match result with
    | .error fault => exact ruling_fail v now fresh fault
    | .ok (.outcome outcome) => exact ruling_accept v now fresh outcome
    | .ok (.other shown) =>
      cases ended : v.terminated with
      | true => exact .drop ended [_]
      | false => exact .ignore ended (.noOutcome shown) [_]

namespace Ending

variable {v : Verifier} {now : Seconds} {callback : Callback} {outcome : Outcome}
  {before : List Notice}

theorem isTerminal (ending : Ending v now callback outcome before) :
    outcome.isTerminal = true := by
  cases ending with
  | final tag => rcases tag with tag | tag | tag <;> simp [Outcome.isTerminal, tag]
  | lapsed tag overdue => rfl
  | timeout => rfl
  | fault words => rfl

/-- Only a fault goes before a final outcome. -/
theorem fault_of_mem (ending : Ending v now callback outcome before) {notice : Notice}
    (member : notice ∈ before) : ∃ message cause, notice = .fault message cause := by
  cases ending with
  | final tag => cases member
  | lapsed tag overdue => cases member
  | timeout => cases member
  | fault words => exact ⟨_, _, List.mem_singleton.mp member⟩

/-- No outcome is told beside the final one. -/
theorem eq_of_told (ending : Ending v now callback outcome before) {other : Outcome}
    (told : .result other ∈ before ++ [.result outcome]) : other = outcome := by
  rcases List.mem_append.mp told with earlier | last
  · obtain ⟨message, cause, impossible⟩ := ending.fault_of_mem earlier
    cases impossible
  · exact Notice.result.inj (List.mem_singleton.mp last)

end Ending

section Conditions

variable {v : Verifier} {now : Seconds} {fresh : Nat} {callback : Callback} {d : Decision}

theorem Ruling.request_eq (ruling : Ruling v now fresh callback d) :
    d.verifier.request = v.request := by
  cases ruling with
  | reopen opening => rw [opening.verifier_eq]
  | drop ended records => exact storing_request v callback
  | @ignore result live strange records => exact storing_request v (.polled result)
  | wait live tag timely next => rfl
  | conclude live ending records => rfl

/-- Of the callbacks only the next poll asks for work. -/
theorem Ruling.reopens (ruling : Ruling v now fresh callback d) {effect : Effect}
    (among : effect ∈ d.effects) (work : effect.isWork = true) :
    callback = .pollAgain ∧ Opening v now d := by
  have logged {records : List LogRecord} (line : effect ∈ records.map .log) : False := by
    obtain ⟨record, _, rfl⟩ := List.mem_map.mp line
    cases work
  cases ruling with
  | reopen opening => exact ⟨rfl, opening⟩
  | drop ended records => exact (logged among).elim
  | ignore live strange records => exact (logged among).elim
  | wait live tag timely next =>
    obtain rfl := List.mem_singleton.mp among
    cases work
  | conclude live ending records =>
    rcases List.mem_append.mp among with line | cancellation
    · exact (logged line).elim
    · obtain ⟨timer, _, rfl⟩ := List.mem_map.mp cancellation
      cases work

/-- An outcome that is not final is told only in time. -/
theorem Ruling.of_pending (ruling : Ruling v now fresh callback d) {outcome : Outcome}
    (told : .result outcome ∈ d.notices) (pending : outcome.isTerminal = false) :
    v.isOverdue now = false := by
  cases ruling with
  | reopen opening =>
    rw [opening.notices_eq_nil] at told
    cases told
  | drop ended records => cases told
  | ignore live strange records => cases told
  | wait live tag timely next => exact timely
  | conclude live ending records =>
    rw [ending.eq_of_told told, ending.isTerminal] at pending
    cases pending

/-- The timeout is told by a verifier that has ended, and for want of time, unless it was the answer
to a poll. -/
theorem Ruling.of_overdueOutcome (ruling : Ruling v now fresh callback d)
    (told : .result overdueOutcome ∈ d.notices) :
    d.verifier.terminated = true
      ∧ (callback = .giveUp ∨ callback = .polled (.ok (.outcome overdueOutcome))
        ∨ ∃ outcome, callback = .polled (.ok (.outcome outcome)) ∧ outcome.tag = .pending
          ∧ v.terminated = false ∧ v.isOverdue now = true) := by
  cases ruling with
  | reopen opening =>
    rw [opening.notices_eq_nil] at told
    cases told
  | drop ended records => cases told
  | ignore live strange records => cases told
  | wait live tag timely next =>
    obtain rfl := Notice.result.inj (List.mem_singleton.mp told)
    cases tag
  | conclude live ending records =>
    refine ⟨rfl, ?_⟩
    have same := ending.eq_of_told told
    cases ending with
    | final tag => exact Or.inr (Or.inl (by rw [same]))
    | @lapsed outcome tag overdue => exact Or.inr (Or.inr ⟨outcome, rfl, tag, live, overdue⟩)
    | timeout => exact Or.inl rfl
    | fault words => cases same

/-- What is told after the first notice is final. -/
theorem Ruling.tail_final (ruling : Ruling v now fresh callback d) {outcome : Outcome}
    (member : .result outcome ∈ d.notices.tail) : outcome.isTerminal = true := by
  cases ruling with
  | reopen opening =>
    rw [opening.notices_eq_nil] at member
    cases member
  | drop ended records => cases member
  | ignore live strange records => cases member
  | wait live tag timely next => cases member
  | conclude live ending records =>
    rw [ending.eq_of_told (List.mem_of_mem_tail member)]
    exact ending.isTerminal

end Conditions

/-- Only a conclusion ends a verifier. -/
theorem Ruling.eq_conclude {v : Verifier} {now : Seconds} {fresh : Nat} {callback : Callback}
    {d : Decision} (ruling : Ruling v now fresh callback d) (live : v.terminated = false)
    (ends : d.verifier.terminated = true) :
    ∃ outcome before, ∃ records : List LogRecord, Ending v now callback outcome before
      ∧ d = v.conclude outcome (records.map .log) before := by
  cases ruling with
  | reopen opening =>
    rw [opening.verifier_eq, live] at ends
    cases ends
  | drop ended records => exact absurd (live.symm.trans ended) Bool.false_ne_true
  | ignore _ strange records =>
    rw [storing_terminated, live] at ends
    cases ends
  | wait _ tag timely next => exact absurd (live.symm.trans ends) Bool.false_ne_true
  | conclude _ ending records => exact ⟨_, _, records, ending, rfl⟩

/-- To give up is the end, if it did not come before. -/
theorem Ruling.ended_of_giveUp {v : Verifier} {now : Seconds} {fresh : Nat} {d : Decision}
    (ruling : Ruling v now fresh .giveUp d) : d.verifier.terminated = true := by
  cases ruling with
  | drop ended records => exact (storing_terminated v .giveUp).trans ended
  | conclude live ending records => rfl

/-- A decision that goes on tells of one result at most. -/
theorem Ruling.notices_of_live {v : Verifier} {now : Seconds} {fresh : Nat} {callback : Callback}
    {d : Decision} (ruling : Ruling v now fresh callback d)
    (live : d.verifier.terminated = false) :
    d.notices = [] ∨ ∃ outcome, d.notices = [.result outcome] := by
  cases ruling with
  | reopen opening => exact Or.inl opening.notices_eq_nil
  | drop ended records => exact Or.inl rfl
  | ignore _ strange records => exact Or.inl rfl
  | wait _ tag timely next => exact Or.inr ⟨_, rfl⟩
  | conclude _ ending records => cases live

section Evaluation

variable {v : Verifier} {now : Seconds}

theorem start_of_timely (live : v.terminated = false) (timely : v.isOverdue now = false) :
    v.start now = { verifier := v, effects := [.submit] } := by
  rw [start, live, timely]
  rfl

theorem start_of_overdue (live : v.terminated = false) (overdue : v.isOverdue now = true) :
    v.start now = { verifier := v, effects := [.enqueue .giveUp] } := by
  rw [start, live, overdue]
  rfl

theorem run_of_pending {outcome : Outcome} (live : v.terminated = false)
    (pending : outcome.tag = .pending) (timely : v.isOverdue now = false) (fresh : Nat) :
    v.run now fresh (.polled (.ok (.outcome outcome))) =
      { verifier := { v with outcome := some outcome, timer := some ⟨fresh, now + repeatPeriod⟩ }
        effects := [.arm ⟨fresh, now + repeatPeriod⟩]
        notices := [.result outcome] } := by
  have ruling := ruling_run v now fresh (.polled (.ok (.outcome outcome)))
  generalize v.run now fresh (.polled (.ok (.outcome outcome))) = d at ruling ⊢
  cases ruling with
  | drop ended records => exact absurd (live.symm.trans ended) Bool.false_ne_true
  | ignore _ strange records =>
    cases strange with
    | unknownTag tag => cases pending.symm.trans tag
  | wait _ tag _ next => rw [next]
  | conclude _ ending records =>
    cases ending with
    | final tag => rcases tag with tag | tag | tag <;> cases pending.symm.trans tag
    | lapsed tag overdue => exact absurd (timely.symm.trans overdue) Bool.false_ne_true

theorem run_of_lapsed {outcome : Outcome} (live : v.terminated = false)
    (pending : outcome.tag = .pending) (overdue : v.isOverdue now = true) (fresh : Nat) :
    ∃ records : List LogRecord, v.run now fresh (.polled (.ok (.outcome outcome))) =
      v.conclude overdueOutcome (records.map .log) := by
  have ruling := ruling_run v now fresh (.polled (.ok (.outcome outcome)))
  generalize v.run now fresh (.polled (.ok (.outcome outcome))) = d at ruling ⊢
  cases ruling with
  | drop ended records => exact absurd (live.symm.trans ended) Bool.false_ne_true
  | ignore _ strange records =>
    cases strange with
    | unknownTag tag => cases pending.symm.trans tag
  | wait _ tag timely next => exact absurd (timely.symm.trans overdue) Bool.false_ne_true
  | conclude _ ending records =>
    cases ending with
    | final tag => rcases tag with tag | tag | tag <;> cases pending.symm.trans tag
    | lapsed tag overdue => exact ⟨records, rfl⟩

theorem giveUp_of_live (live : v.terminated = false) :
    ∃ records : List LogRecord, v.giveUp = v.conclude overdueOutcome (records.map .log) := by
  rw [giveUp, live]
  exact ⟨[_], rfl⟩

end Evaluation

end Verifier

end TransferProof
