import TransferProof.Proofs.Verification.Steps

/-!
# Silence after the end

Once a verifier has ended it stays so, and nothing more is submitted, armed, reported or delivered,
whatever comes in afterwards and in whatever order. A final outcome is delivered by a verifier that
has ended, so there is at most one and nothing follows it.
-/

namespace TransferProof

/-- Nothing is begun and nobody is told. -/
def Observation.isQuiet : Observation → Bool
  | .submitted _ => false
  | .armed _ => false
  | .reported _ _ => false
  | .delivered _ _ => false
  | _ => true

theorem Observation.isFinal_of_isQuiet {o : Observation} (quiet : o.isQuiet = true) :
    o.isFinal = false := by
  cases o with
  | delivered outcome time => cases quiet
  | _ => rfl

namespace Verification

open Verifier

/-- The verifier has ended, and since `s` no poll was submitted, no timer armed and no handler
called. -/
structure Silent (s t : Verification) : Prop where
  ended : t.verifier.terminated = true
  submissions : t.submissions = s.submissions
  armed : t.fresh = s.fresh
  timers : t.timers.Sublist s.timers
  onResult : t.onResult = s.onResult
  onFault : t.onFault = s.onFault
  history : ∃ since, t.history = since ++ s.history ∧ ∀ o ∈ since, o.isQuiet = true

namespace Silent

variable {s t u : Verification}

theorem refl (ended : s.verifier.terminated = true) : Silent s s :=
  ⟨ended, rfl, rfl, List.Sublist.refl _, rfl, rfl, [], rfl, by simp⟩

theorem trans (h : Silent s t) (k : Silent t u) : Silent s u := by
  obtain ⟨first, hfirst, quietFirst⟩ := h.history
  obtain ⟨second, hsecond, quietSecond⟩ := k.history
  refine ⟨k.ended, k.submissions.trans h.submissions, k.armed.trans h.armed,
    k.timers.trans h.timers, k.onResult.trans h.onResult, k.onFault.trans h.onFault,
    second ++ first, ?_, ?_⟩
  · rw [hsecond, hfirst, List.append_assoc]
  · intro o member
    rcases List.mem_append.mp member with member | member
    · exact quietSecond o member
    · exact quietFirst o member

end Silent

section Quiet

variable {s : Verification}

theorem silent_noted {v : Verifier} (ended : v.terminated = true) (records : List LogRecord) :
    Silent s ({ s with verifier := v }.noted records) := by
  refine ⟨ended, rfl, rfl, List.Sublist.refl _, rfl, rfl, _, rfl, ?_⟩
  intro o member
  obtain ⟨record, -, rfl⟩ := List.mem_map.mp (List.mem_reverse.mp member)
  rfl

theorem silent_callOff (ended : s.verifier.terminated = true) (held : Option Timer) :
    Silent s (s.callOff held) := by
  refine ⟨by simpa using ended, by simp, by simp, ?_, by simp, by simp,
    _, callOff_history s held, ?_⟩
  · rw [callOff_timers]
    exact List.filter_sublist
  · intro o member
    obtain ⟨timer, -, rfl⟩ := List.mem_map.mp member
    rfl

/-- To terminate is silent even where the verifier had not ended before. -/
theorem silent_terminate (s : Verification) :
    Silent s ({ s with verifier := s.verifier.stopped }.callOff s.verifier.timer) := by
  have stopped : Silent s { s with verifier := s.verifier.stopped } :=
    ⟨rfl, rfl, rfl, List.Sublist.refl _, rfl, rfl, [], rfl, by simp⟩
  exact stopped.trans (silent_callOff rfl _)

theorem silent_opening {d : Decision} (ended : s.verifier.terminated = true)
    (opening : Opening s.verifier s.clock d) : Silent s (s.adopt d).1 := by
  cases opening with
  | refuse _ record => exact silent_noted ended [record]
  | tooLate live _ => exact absurd (ended.symm.trans live) (by decide)
  | poll live _ => exact absurd (ended.symm.trans live) (by decide)

theorem silent_ruling {callback : Callback} {rest : List Callback} {d : Decision}
    (ended : s.verifier.terminated = true)
    (ruling : Ruling s.verifier s.clock s.fresh callback d) :
    Silent s ({ s with queue := rest }.adopt d).1 ∧ d.notices = [] := by
  have popped : Silent s { s with queue := rest } :=
    ⟨ended, rfl, rfl, List.Sublist.refl _, rfl, rfl, [], rfl, by simp⟩
  cases ruling with
  | reopen opening =>
    exact ⟨popped.trans (silent_opening ended opening), opening.notices_eq_nil⟩
  | drop _ records =>
    rw [adopt_log]
    exact ⟨popped.trans (silent_noted (by simpa using ended) records), rfl⟩
  | ignore live _ _ => exact absurd (ended.symm.trans live) (by decide)
  | wait live _ _ _ => exact absurd (ended.symm.trans live) (by decide)
  | conclude live _ _ => exact absurd (ended.symm.trans live) (by decide)

theorem silent_finish (ended : s.verifier.terminated = true) (result : PollResult) :
    Silent s (s.finish result) := by
  rw [finish]
  split
  · exact .refl ended
  · exact ⟨ended, rfl, rfl, List.Sublist.refl _, rfl, rfl, [], rfl, by simp⟩

theorem silent_fire (ended : s.verifier.terminated = true) (timer : Timer) :
    Silent s (s.fire timer) := by
  rw [fire]
  split
  · exact ⟨ended, rfl, rfl, List.filter_sublist, rfl, rfl, [], rfl, by simp⟩
  · exact .refl ended

theorem silent_failed (ended : s.verifier.terminated = true) (fault : Fault) :
    Silent s (s.observe (.callbackFailed fault)) :=
  ⟨ended, rfl, rfl, List.Sublist.refl _, rfl, rfl, [_], rfl, by simp [Observation.isQuiet]⟩

end Quiet

/-- Silence lasts: no handler is called, so there are no notices either. -/
theorem lasting_silent (s : Verification) :
    Lasting (fun _ => True) (fun _ => True) fun notices t => notices = [] ∧ Silent s t where
  starts := fun _ => trivial
  opened := fun _ h opening => ⟨h.1, h.2.trans (silent_opening h.2.ended opening)⟩
  terminated := fun h => ⟨h.1, h.2.trans (silent_terminate _)⟩
  ticked := fun _ h => ⟨h.1, { h.2 with }⟩
  reported := fun h => absurd h.1 (List.cons_ne_nil _ _)
  delivered := fun h => absurd h.1 (List.cons_ne_nil _ _)
  abandoned := fun h => ⟨rfl, h.2⟩
  failed := fun fault h => ⟨rfl, h.2.trans (silent_failed h.2.ended fault)⟩
  ruled := fun h _ ruling =>
    have ruled := silent_ruling h.2.ended ruling
    ⟨ruled.2, h.2.trans ruled.1⟩
  finished := fun _ h => ⟨rfl, h.2.trans (silent_finish h.2.ended _)⟩
  fired := fun timer h => ⟨rfl, h.2.trans (silent_fire h.2.ended timer)⟩
  closed := fun _ h => ⟨rfl, { h.2 with }⟩

theorem follows_any (s : Verification) : s.Follows fun _ => True :=
  fun _ _ _ _ => trivial

theorem silent_run {s : Verification} (ended : s.verifier.terminated = true)
    (events : List Event) : Silent s (s.run events) :=
  ((lasting_silent s).run (fun _ _ => trivial) (follows_any s) ⟨rfl, .refl ended⟩).2.2

def Undecided (s : Verification) : Prop :=
  ∀ o ∈ s.history, o.isFinal = false

theorem Undecided.observe {s : Verification} (undecided : s.Undecided) {o : Observation}
    (passing : o.isFinal = false) : (s.observe o).Undecided := by
  intro x member
  rcases List.mem_cons.mp member with rfl | member
  · exact passing
  · exact undecided x member

theorem Undecided.carryOut {s : Verification} (undecided : s.Undecided) (effect : Effect) :
    (s.carryOut effect).1.Undecided := by
  cases effect with
  | log record => exact undecided.observe rfl
  | submit =>
    rw [Verification.carryOut]
    split
    · exact undecided.observe (s := { s with
        submissions := s.submissions + 1, tasks := s.tasks + 1 }) rfl
    · exact undecided
  | enqueue callback => exact undecided
  | arm timer =>
    exact undecided.observe (s := { s with
      timers := s.timers ++ [timer], fresh := s.fresh + 1 }) rfl
  | cancel timer =>
    exact undecided.observe (s := { s with timers := s.timers.filter (· != timer) }) rfl

/-- A decision delivers nothing by itself; that is left to its notices. -/
theorem Undecided.adopt {s : Verification} (undecided : s.Undecided) (d : Decision) :
    (s.adopt d).1.Undecided :=
  carryOutAll_keeps (s := { s with verifier := d.verifier })
    (fun _ effect _ undecided => undecided.carryOut effect) undecided

/-- What is newer than a final outcome is quiet; the newest comes first. -/
def Orderly (history : List Observation) : Prop :=
  history.Pairwise fun later earlier => earlier.isFinal = true → later.isQuiet = true

namespace Orderly

theorem of_undecided {s : Verification} (undecided : s.Undecided) : Orderly s.history := by
  refine List.pairwise_of_forall_mem_list ?_
  intro later _ earlier member final
  rw [undecided earlier member] at final
  cases final

theorem append {since history : List Observation} (quiet : ∀ o ∈ since, o.isQuiet = true)
    (orderly : Orderly history) : Orderly (since ++ history) := by
  refine List.pairwise_append.mpr ⟨?_, orderly, ?_⟩
  · exact List.pairwise_of_forall_mem_list fun later member _ _ _ => quiet later member
  · intro later member _ _ _
    exact quiet later member

theorem countP_le_one {history : List Observation} (orderly : Orderly history) :
    history.countP Observation.isFinal ≤ 1 := by
  induction history with
  | nil => exact Nat.zero_le 1
  | cons o earlier ih =>
    obtain ⟨newest, rest⟩ := List.pairwise_cons.mp orderly
    by_cases final : o.isFinal = true
    · have noneBefore : earlier.countP Observation.isFinal = 0 := by
        rw [List.countP_eq_zero]
        intro x member before
        rw [Observation.isFinal_of_isQuiet (newest x member before)] at final
        cases final
      rw [List.countP_cons_of_pos final]
      omega
    · rw [List.countP_cons_of_neg final]
      exact ih rest

theorem quiet_after {after before : List Observation} {o : Observation}
    (orderly : Orderly (after ++ o :: before)) (final : o.isFinal = true) :
    ∀ x ∈ after, x.isQuiet = true := by
  intro x member
  have later := (List.pairwise_append.mp orderly).2.2
  exact later x member o List.mem_cons_self final

end Orderly

/-- How things stand with final outcomes while notices are still to be told: one that was delivered
ended the verifier, and one that is to be told has done so already and is the last notice. -/
structure Due (notices : List Notice) (s : Verification) : Prop where
  orderly : Orderly s.history
  ended : s.Undecided ∨ s.verifier.terminated = true
  undecided : notices ≠ [] → s.Undecided
  last : notices.Pairwise fun earlier _ => ∀ outcome, earlier ≠ .result outcome
  final : ∀ outcome, .result outcome ∈ notices → outcome.isTerminal = true →
    s.verifier.terminated = true

namespace Due

variable {notices : List Notice} {s t : Verification}

theorem nil (undecided : s.Undecided) : Due [] s where
  orderly := .of_undecided undecided
  ended := Or.inl undecided
  undecided := fun nonempty => absurd rfl nonempty
  last := List.Pairwise.nil
  final := fun _ member => absurd member List.not_mem_nil

/-- What delivers nothing, and is silent after the end, leaves it as it was. -/
theorem mono (due : Due notices s) (undecided : s.Undecided → t.Undecided)
    (silent : s.verifier.terminated = true → Silent s t) : Due notices t where
  orderly := by
    rcases due.ended with undecidedBefore | ended
    · exact .of_undecided (undecided undecidedBefore)
    · obtain ⟨since, grown, quiet⟩ := (silent ended).history
      rw [grown]
      exact due.orderly.append quiet
  ended := due.ended.imp undecided fun ended => (silent ended).ended
  undecided := fun nonempty => undecided (due.undecided nonempty)
  last := due.last
  final := fun outcome member terminal => (silent (due.final outcome member terminal)).ended

theorem abandon (due : Due notices s) : Due [] s where
  orderly := due.orderly
  ended := due.ended
  undecided := fun nonempty => absurd rfl nonempty
  last := List.Pairwise.nil
  final := fun _ member => absurd member List.not_mem_nil

theorem report {message : Text} {cause : Fault} (due : Due (.fault message cause :: notices) s) :
    Due notices ({ s with onFault := s.onFault.tail }.observe (.reported message cause)) := by
  have undecided : Undecided
      ({ s with onFault := s.onFault.tail }.observe (.reported message cause)) :=
    Undecided.observe (s := { s with onFault := s.onFault.tail })
      (due.undecided (List.cons_ne_nil _ _)) rfl
  refine ⟨.of_undecided undecided, Or.inl undecided, fun _ => undecided, due.last.tail, ?_⟩
  intro outcome member terminal
  exact due.final outcome (List.mem_cons_of_mem _ member) terminal

theorem deliver {outcome : Outcome} (due : Due (.result outcome :: notices) s) :
    Due notices
      ({ s with onResult := s.onResult.tail }.observe (.delivered outcome s.clock)) := by
  have before := due.undecided (List.cons_ne_nil _ _)
  have nothing : notices = [] := by
    refine List.eq_nil_iff_forall_not_mem.mpr ?_
    intro notice member
    exact (List.pairwise_cons.mp due.last).1 notice member outcome rfl
  subst nothing
  by_cases terminal : outcome.isTerminal = true
  · refine ⟨?_, Or.inr (due.final outcome List.mem_cons_self terminal), ?_, List.Pairwise.nil, ?_⟩
    · refine List.pairwise_cons.mpr ⟨?_, Orderly.of_undecided before⟩
      intro earlier member final
      rw [before earlier member] at final
      cases final
    · exact fun nonempty => absurd rfl nonempty
    · exact fun _ member => absurd member List.not_mem_nil
  · refine Due.nil ?_
    exact Undecided.observe (s := { s with onResult := s.onResult.tail }) before
      (Bool.eq_false_iff.mpr terminal)

end Due

/-- A ruling tells of a final outcome only where none was delivered, and after it has ended the
verifier. -/
theorem due_ruling {s : Verification} {callback : Callback} {rest : List Callback} {d : Decision}
    (due : Due [] s) (ruling : Ruling s.verifier s.clock s.fresh callback d) :
    Due d.notices ({ s with queue := rest }.adopt d).1 := by
  by_cases ended : s.verifier.terminated = true
  · have silent : Silent s ({ s with queue := rest }.adopt d).1 ∧ d.notices = [] :=
      silent_ruling ended ruling
    obtain ⟨silent, nobody⟩ := silent
    rw [nobody]
    refine due.mono ?_ fun _ => silent
    intro undecided
    exact Undecided.adopt (s := { s with queue := rest }) undecided d
  · have undecided : Undecided ({ s with queue := rest }.adopt d).1 :=
      Undecided.adopt (s := { s with queue := rest }) (due.ended.resolve_right ended) d
    cases ruling with
    | reopen opening =>
      rw [opening.notices_eq_nil]
      exact .nil undecided
    | drop _ records => exact .nil undecided
    | ignore _ _ records => exact .nil undecided
    | wait live tag timely next =>
      refine ⟨.of_undecided undecided, Or.inl undecided, fun _ => undecided,
        List.pairwise_singleton _ _, ?_⟩
      intro outcome member terminal
      obtain rfl : outcome = _ := Notice.result.inj (List.mem_singleton.mp member)
      simp [Outcome.isTerminal, tag] at terminal
    | conclude live ending records =>
      refine ⟨.of_undecided undecided, Or.inl undecided, fun _ => undecided, ?_, ?_⟩
      · refine List.pairwise_append.mpr ⟨?_, List.pairwise_singleton _ _, ?_⟩
        · refine List.pairwise_of_forall_mem_list ?_
          intro notice member _ _ outcome
          obtain ⟨message, cause, rfl⟩ := ending.fault_of_mem member
          exact Notice.noConfusion
        · intro notice member _ _ outcome
          obtain ⟨message, cause, rfl⟩ := ending.fault_of_mem member
          exact Notice.noConfusion
      · intro outcome _ _
        rw [adopt_conclude, callOff_verifier]
        rfl

theorem lasting_due : Lasting (fun _ => True) (fun _ => True) Due where
  starts := fun _ => trivial
  opened := fun _ due opening =>
    due.mono (fun undecided => undecided.adopt _) fun ended => silent_opening ended opening
  terminated := by
    intro notices s due
    refine due.mono ?_ fun _ => silent_terminate s
    intro undecided
    have kept := undecided.adopt s.verifier.terminate
    rwa [adopt_terminate] at kept
  ticked := fun _ due => due.mono id fun ended => { Silent.refl ended with }
  reported := Due.report
  delivered := Due.deliver
  abandoned := Due.abandon
  failed := fun fault due => due.mono (fun undecided => undecided.observe rfl)
    fun ended => silent_failed ended fault
  ruled := fun due _ ruling => due_ruling due ruling
  finished := by
    intro s result _ due
    refine due.mono ?_ fun ended => silent_finish ended result
    intro undecided
    rw [finish]
    split <;> exact undecided
  fired := by
    intro s timer due
    refine due.mono ?_ fun ended => silent_fire ended timer
    intro undecided
    rw [fire]
    split <;> exact undecided
  closed := fun _ due => due.mono id fun ended => { Silent.refl ended with }

theorem orderly_run {s : Verification} (undecided : s.Undecided) (events : List Event) :
    Orderly (s.run events).history :=
  (lasting_due.run (fun _ _ => trivial) (follows_any s) (.nil undecided)).2.orderly

def Reached (s : Verification) : Prop :=
  ∃ request clock onResult onFault events,
    s = (ofRequest request clock onResult onFault).run events

theorem Reached.orderly {s : Verification} (reached : s.Reached) : Orderly s.history := by
  obtain ⟨request, clock, onResult, onFault, events, rfl⟩ := reached
  refine orderly_run ?_ events
  intro o member
  cases member

/-- Whatever happens after the end is silent. So in a whole run at most one final outcome is
delivered, and nothing is begun and nobody told after it. -/
theorem silent_after_end {s : Verification} (reached : s.Reached) :
    (s.verifier.terminated = true → ∀ later, Silent s (s.run later))
      ∧ s.history.countP Observation.isFinal ≤ 1
      ∧ ∀ after o before, s.history = after ++ o :: before → o.isFinal = true →
          ∀ x ∈ after, x.isQuiet = true := by
  have orderly := reached.orderly
  refine ⟨fun ended later => silent_run ended later, orderly.countP_le_one, ?_⟩
  intro after o before parts final
  rw [parts] at orderly
  exact orderly.quiet_after final

/-- A success, and a handler that then starts the verifier once more and terminates it. -/
def restarted : Verification :=
  (small [{ moves := [.start, .terminate] }]).run
    [.start, .finish (.ok (.outcome .success)), .runNext]

theorem silent_after_end_restarted :
    restarted.Reached ∧ restarted.verifier.terminated = true
      ∧ restarted.history.countP Observation.isFinal = 1
      ∧ ∀ later, Silent restarted (restarted.run later) := by
  have reached : restarted.Reached := ⟨_, _, _, _, _, rfl⟩
  have ended : restarted.verifier.terminated = true := by decide +kernel
  refine ⟨reached, ended, by decide +kernel, ?_⟩
  exact (silent_after_end reached).1 ended

end Verification

end TransferProof
