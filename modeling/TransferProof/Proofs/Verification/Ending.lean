import TransferProof.Proofs.Verification.Silence

/-!
# Endings

A verifier that nobody terminates ends by a callback. The final outcome is stored then, and the
handler of results is told of it exactly once, whatever the handlers do and whatever happens later.
There is one exception: when a poll has failed the handler of faults is called first, and if that
fails nobody is told of the outcome.
-/

namespace TransferProof.Verification

open Verifier

def deliveries (history : List Observation) : List Outcome :=
  history.filterMap fun
    | .delivered outcome _ => some outcome
    | _ => none

structure EndsBy (s : Verification) (callback : Callback) : Prop where
  next : s.queue.head? = some callback
  live : s.verifier.terminated = false
  ends : (s.verifier.run s.clock s.fresh callback).verifier.terminated = true

/-- The callback tells of a failed poll, and the handler of faults is going to fail as well. -/
def FaultHandlerFails (s : Verification) (callback : Callback) : Prop :=
  (∃ fault, callback = .polled (.error fault)) ∧ (s.onFault.head?.getD {}).fault ≠ none

/-- A decision delivers nothing by itself. -/
theorem deliveries_adopt (s : Verification) (d : Decision) :
    deliveries (s.adopt d).1.history = deliveries s.history := by
  refine carryOutAll_keeps (s := { s with verifier := d.verifier })
    (P := fun t => deliveries t.history = deliveries s.history) ?_ rfl
  intro t effect _ same
  cases effect with
  | submit =>
    rw [carryOut]
    split <;> exact same
  | _ => exact same

/-- What is quiet is no news to what looks at handlers and work only. -/
theorem filterMap_append_of_quiet {α : Type} {f : Observation → Option α}
    (ignores : ∀ o, o.isQuiet = true → f o = none) {since history : List Observation}
    (quiet : ∀ o ∈ since, o.isQuiet = true) :
    (since ++ history).filterMap f = history.filterMap f := by
  have nothing : since.filterMap f = [] :=
    List.filterMap_eq_nil_iff.mpr fun o member => ignores o (quiet o member)
  rw [List.filterMap_append, nothing, List.nil_append]

theorem Silent.deliveries_eq {s t : Verification} (silent : Silent s t) :
    deliveries t.history = deliveries s.history := by
  obtain ⟨since, grown, quiet⟩ := silent.history
  rw [deliveries, deliveries, grown, filterMap_append_of_quiet ?_ quiet]
  intro o still
  cases o with
  | delivered outcome time => cases still
  | _ => rfl

/-- No move of a handler changes the outcome that is stored. -/
theorem move_outcome (s : Verification) (move : Move) :
    (s.move move).1.verifier.outcome = s.verifier.outcome := by
  cases move with
  | start =>
    rw [Verification.move, adopt_verifier, (opening_start _ _).verifier_eq]
  | terminate =>
    rw [Verification.move, adopt_verifier]
    rfl
  | linger seconds => rfl

/-- A handler can do nothing wrong with a verifier that has ended. -/
theorem move_of_terminated {s : Verification} (ended : s.verifier.terminated = true)
    (move : Move) : (s.move move).2 = none := by
  cases move with
  | start =>
    rw [Verification.move, Verifier.start, if_pos ended]
    rfl
  | terminate =>
    rw [Verification.move, adopt_terminate]
  | linger seconds => rfl

/-- The verifier has ended with this outcome, and so far these outcomes were delivered. -/
structure Ended (outcome : Outcome) (told : List Outcome) (s : Verification) : Prop where
  ended : s.verifier.terminated = true
  outcome : s.verifier.outcome = some outcome
  told : deliveries s.history = told

namespace Ended

variable {outcome : Outcome} {told : List Outcome} {s : Verification}

theorem moveAll (h : Ended outcome told s) (last : Option Fault) (moves : List Move) :
    Ended outcome told (s.moveAll last moves).1 ∧ (s.moveAll last moves).2 = last := by
  induction moves generalizing s with
  | nil => exact ⟨h, rfl⟩
  | cons m rest ih =>
    have silent : Silent s (s.move m).1 :=
      ((lasting_silent s).enduring.move trivial allFinal_nil ⟨rfl, .refl h.ended⟩).2
    have moved : Ended outcome told (s.move m).1 :=
      ⟨silent.ended, (move_outcome s m).trans h.outcome, silent.deliveries_eq.trans h.told⟩
    have fine := move_of_terminated h.ended m
    rw [Verification.moveAll]
    cases moving : s.move m with
    | mk t fault =>
      rw [moving] at moved fine
      obtain rfl : fault = none := fine
      exact ih moved

theorem tell_result (h : Ended outcome told s) (o : Outcome) :
    Ended outcome (o :: told) (s.tell (.result o)).1 := by
  have heard : Ended outcome (o :: told)
      ({ s with onResult := s.onResult.tail }.observe (.delivered o s.clock)) :=
    ⟨h.ended, h.outcome, congrArg (o :: ·) h.told⟩
  exact (heard.moveAll _ _).1

theorem tell_fault (h : Ended outcome told s) (message : Text) (cause : Fault) :
    Ended outcome told (s.tell (.fault message cause)).1
      ∧ (s.tell (.fault message cause)).2 = (s.onFault.head?.getD {}).fault := by
  have heard : Ended outcome told
      ({ s with onFault := s.onFault.tail }.observe (.reported message cause)) :=
    ⟨h.ended, h.outcome, h.told⟩
  exact heard.moveAll _ _

theorem noting {fault : Option Fault} (h : Ended outcome told s) :
    Ended outcome told (Verification.noting (s, fault)) := by
  cases fault with
  | none => exact h
  | some fault => exact ⟨h.ended, h.outcome, h.told⟩

/-- Nothing is delivered any more. -/
theorem later (h : Ended outcome told s) (events : List Event) :
    deliveries (s.run events).history = told :=
  (silent_run h.ended events).deliveries_eq.trans h.told

end Ended

/-- To conclude is silent; the handlers are told later. -/
theorem silent_conclude (s : Verification) (rest : List Callback) (outcome : Outcome)
    (records : List LogRecord) (before : List Notice) :
    Silent s ({ s with queue := rest }.adopt
      (s.verifier.conclude outcome (records.map .log) before)).1 := by
  rw [adopt_conclude]
  have concluded : Silent s ({ s with
      queue := rest, verifier := { s.verifier.stopped with outcome := some outcome } }.noted
        records) :=
    { silent_noted (s := s) (v := { s.verifier.stopped with outcome := some outcome }) rfl
        records with }
  exact concluded.trans (silent_callOff rfl _)

theorem ended_conclude (s : Verification) (rest : List Callback) (outcome : Outcome)
    (records : List LogRecord) (before : List Notice) :
    Ended outcome (deliveries s.history) ({ s with queue := rest }.adopt
      (s.verifier.conclude outcome (records.map .log) before)).1 := by
  have silent := silent_conclude s rest outcome records before
  refine ⟨silent.ended, ?_, silent.deliveries_eq⟩
  rw [adopt_conclude, callOff_verifier]
  rfl

section Telling

variable {outcome : Outcome} {told : List Outcome} {s : Verification}

theorem Ended.tellAll_result (h : Ended outcome told s) :
    Ended outcome (outcome :: told) (Verification.noting (s.tellAll [.result outcome])) := by
  have heard := h.tell_result outcome
  rw [tellAll]
  cases telling : s.tell (.result outcome) with
  | mk t fault =>
    rw [telling] at heard
    cases fault <;> exact heard.noting

/-- A fault of the handler of faults keeps the outcome from the handler of results. -/
theorem Ended.tellAll_fault (h : Ended outcome told s) (message : Text) (cause : Fault) :
    Ended outcome (if (s.onFault.head?.getD {}).fault = none then outcome :: told else told)
      (Verification.noting (s.tellAll [.fault message cause, .result outcome])) := by
  obtain ⟨heard, last⟩ := h.tell_fault message cause
  rw [tellAll]
  cases telling : s.tell (.fault message cause) with
  | mk t fault =>
    rw [telling] at heard last
    obtain rfl : fault = _ := last
    cases failed : (s.onFault.head?.getD {}).fault with
    | none => exact heard.tellAll_result
    | some fault => exact heard.noting

end Telling

/-- A conclusion stores the outcome, and then the handlers are told. -/
theorem runNext_of_conclude {s : Verification} {callback : Callback} {rest : List Callback}
    {outcome : Outcome} {records : List LogRecord} {before : List Notice}
    (queued : s.queue = callback :: rest)
    (decided : s.verifier.run s.clock s.fresh callback =
      s.verifier.conclude outcome (records.map .log) before) :
    ∃ t, s.runNext = Verification.noting (t.tellAll (before ++ [.result outcome]))
      ∧ Ended outcome (deliveries s.history) t ∧ Silent s t := by
  have concluded := ended_conclude s rest outcome records before
  have silent := silent_conclude s rest outcome records before
  have adopted := adopt_conclude { s with queue := rest } s.verifier outcome records before
  rw [adopted] at concluded silent
  refine ⟨_, ?_, concluded, silent⟩
  rw [runNext_eq queued, decided, enact_of_adopt adopted]
  rfl

/-- The handler of results is told of the final outcome, unless the handler of faults fails before
that. -/
theorem ended_runNext {s : Verification} {callback : Callback} (ends : EndsBy s callback) :
    ∃ outcome, outcome.isTerminal = true
      ∧ (¬ FaultHandlerFails s callback →
          Ended outcome (outcome :: deliveries s.history) s.runNext)
      ∧ (FaultHandlerFails s callback → Ended outcome (deliveries s.history) s.runNext) := by
  obtain ⟨rest, queued⟩ := List.head?_eq_some_iff.mp ends.next
  obtain ⟨outcome, before, records, ending, decided⟩ :=
    (ruling_run s.verifier s.clock s.fresh callback).eq_conclude ends.live ends.ends
  obtain ⟨t, ran, concluded, silent⟩ := runNext_of_conclude queued decided
  rw [ran]
  refine ⟨outcome, ending.isTerminal, ?_⟩
  cases ending with
  | @fault failure message words =>
    have heard := concluded.tellAll_fault message failure.origin
    rw [silent.onFault] at heard
    constructor
    · intro fine
      by_cases noFault : (s.onFault.head?.getD {}).fault = none
      · rwa [if_pos noFault] at heard
      · exact absurd ⟨⟨failure, rfl⟩, noFault⟩ fine
    · intro fails
      rwa [if_neg fails.2] at heard
  | _ =>
    refine ⟨fun _ => concluded.tellAll_result, ?_⟩
    rintro ⟨⟨fault, impossible⟩, _⟩
    cases impossible

section Terminating

variable {s : Verification}

/-- Of the moves of a handler only one terminates the verifier. -/
theorem moveAll_live {last : Option Fault} {moves : List Move}
    (live : s.verifier.terminated = false) (keeps : Move.terminate ∉ moves) :
    (s.moveAll last moves).1.verifier.terminated = false := by
  induction moves generalizing s with
  | nil => exact live
  | cons m rest ih =>
    have moved : (s.move m).1.verifier.terminated = false := by
      cases m with
      | start => rw [Verification.move, adopt_verifier, (opening_start _ _).verifier_eq, live]
      | terminate => exact absurd List.mem_cons_self keeps
      | linger seconds => exact live
    rw [moveAll]
    cases moving : s.move m with
    | mk t fault =>
      rw [moving] at moved
      cases fault with
      | none => exact ih moved fun member => keeps (List.mem_cons_of_mem _ member)
      | some fault => exact moved

/-- A callback that does not end the verifier leaves that to the handler of results. -/
theorem runNext_live {callback : Callback} {rest : List Callback}
    (queued : s.queue = callback :: rest)
    (goesOn : (s.verifier.run s.clock s.fresh callback).verifier.terminated = false)
    (keeps : Move.terminate ∉ (s.onResult.head?.getD {}).moves) :
    s.runNext.verifier.terminated = false := by
  rw [runNext_eq queued, enact]
  have ruling := ruling_run s.verifier s.clock s.fresh callback
  have decided := adopt_verifier { s with queue := rest }
    (s.verifier.run s.clock s.fresh callback)
  have plans := adopt_plans { s with queue := rest } (s.verifier.run s.clock s.fresh callback)
  cases adopted : { s with queue := rest }.adopt (s.verifier.run s.clock s.fresh callback) with
  | mk t fault =>
    rw [adopted] at decided plans
    have live : t.verifier.terminated = false := by
      rw [show t.verifier = _ from decided]
      exact goesOn
    cases fault with
    | some fault =>
      rw [noting_verifier]
      exact live
    | none =>
      rcases ruling.notices_of_live goesOn with nobody | ⟨outcome, told⟩
      · rw [nobody]
        exact live
      · have heard : (t.tell (.result outcome)).1.verifier.terminated = false := by
          rw [tell, show t.onResult = s.onResult from plans.1]
          exact moveAll_live (s := { t with onResult := s.onResult.tail }.observe _) live keeps
        rw [told]
        dsimp only
        rw [tellAll]
        cases telling : t.tell (.result outcome) with
        | mk u fault =>
          rw [telling] at heard
          cases fault <;> exact heard

/-- Somebody terminates a verifier, or it ends by a callback. -/
theorem ended_by_callback {event : Event} (live : s.verifier.terminated = false)
    (ended : (s.step event).verifier.terminated = true) :
    event = .terminate ∨ event = .runNext
      ∧ (.terminate ∈ (s.onResult.head?.getD {}).moves ∨ ∃ callback, EndsBy s callback) := by
  cases event with
  | terminate => exact Or.inl rfl
  | start =>
    rw [step, start_eq, adopt_verifier, (opening_start _ _).verifier_eq, live] at ended
    cases ended
  | finish result =>
    rw [step, finish] at ended
    split at ended <;> exact absurd (live.symm.trans ended) Bool.false_ne_true
  | fire timer =>
    rw [step, fire] at ended
    split at ended <;> exact absurd (live.symm.trans ended) Bool.false_ne_true
  | tick time => exact absurd (live.symm.trans ended) Bool.false_ne_true
  | closePool => exact absurd (live.symm.trans ended) Bool.false_ne_true
  | runNext =>
    refine Or.inr ⟨rfl, ?_⟩
    cases queued : s.queue with
    | nil =>
      rw [step, runNext, queued] at ended
      exact absurd (live.symm.trans ended) Bool.false_ne_true
    | cons callback rest =>
      by_cases keeps : Move.terminate ∈ (s.onResult.head?.getD {}).moves
      · exact Or.inl keeps
      · refine Or.inr ⟨callback, by rw [queued]; rfl, live, ?_⟩
        cases decided : (s.verifier.run s.clock s.fresh callback).verifier.terminated with
        | true => rfl
        | false =>
          rw [step, runNext_live queued decided keeps] at ended
          cases ended

end Terminating

/-- Before the end no final outcome was delivered. -/
theorem Reached.undecided {s : Verification} (reached : s.Reached)
    (live : s.verifier.terminated = false) : s.Undecided := by
  obtain ⟨request, clock, onResult, onFault, events, rfl⟩ := reached
  have due : Due [] ((ofRequest request clock onResult onFault).run events) :=
    (lasting_due.run (fun _ _ => trivial) (follows_any _)
      (.nil fun _ member => absurd member List.not_mem_nil)).2
  refine due.ended.resolve_right ?_
  rw [live]
  exact Bool.false_ne_true

theorem Undecided.deliveries {s : Verification} (undecided : s.Undecided) {outcome : Outcome}
    (member : outcome ∈ deliveries s.history) : outcome.isTerminal = false := by
  obtain ⟨o, among, delivered⟩ := List.mem_filterMap.mp member
  cases o with
  | delivered other time =>
    obtain rfl := Option.some.inj delivered
    exact undecided _ among
  | _ => cases delivered

/-- A verifier ends because somebody terminates it or by a callback. In the second case no final
outcome was delivered before, one is stored, and just this one is delivered and nothing after it,
unless the handler of faults fails: then nothing is ever delivered. -/
theorem ending_delivered_once {s : Verification} (reached : s.Reached) :
    (∀ event, s.verifier.terminated = false → (s.step event).verifier.terminated = true →
        event = .terminate ∨ event = .runNext
          ∧ (.terminate ∈ (s.onResult.head?.getD {}).moves ∨ ∃ callback, EndsBy s callback))
      ∧ ∀ callback, EndsBy s callback →
        (∀ outcome ∈ deliveries s.history, outcome.isTerminal = false)
          ∧ ∃ outcome, outcome.isTerminal = true ∧ s.runNext.verifier.terminated = true
            ∧ s.runNext.verifier.outcome = some outcome
            ∧ (¬ FaultHandlerFails s callback → ∀ later,
                deliveries (s.runNext.run later).history = outcome :: deliveries s.history)
            ∧ (FaultHandlerFails s callback → ∀ later,
                deliveries (s.runNext.run later).history = deliveries s.history) := by
  refine ⟨fun event => ended_by_callback, ?_⟩
  intro callback ends
  refine ⟨fun outcome => (reached.undecided ends.live).deliveries, ?_⟩
  obtain ⟨outcome, terminal, told, untold⟩ := ended_runNext ends
  have ended : s.runNext.verifier.terminated = true
      ∧ s.runNext.verifier.outcome = some outcome := by
    by_cases fails : FaultHandlerFails s callback
    · exact ⟨(untold fails).ended, (untold fails).outcome⟩
    · exact ⟨(told fails).ended, (told fails).outcome⟩
  exact ⟨outcome, terminal, ended.1, ended.2, fun fine => (told fine).later,
    fun fails => (untold fails).later⟩

section Refused

/-- What is left of a refused connection. -/
def refusal : PollResult := .error (.plain (.network .connection) none)

def refused (reaction : Reaction) : Verification :=
  { small [] with onFault := [reaction] }.run [.start, .finish refusal]

theorem refused_eq (reaction : Reaction) :
    refused reaction = { small [] with
      submissions := 1, queue := [.polled refusal], onFault := [reaction]
      history := [.submitted 5] } := by
  have opened : (small []).verifier.start 5 =
      { verifier := (small []).verifier, effects := [.submit] } := by
    rw [Verifier.start, if_neg (by decide), if_neg (by decide +kernel)]
  have started : { small [] with onFault := [reaction] }.start.1 =
      { small [] with
        submissions := 1, tasks := 1, onFault := [reaction], history := [.submitted 5] } := by
    rw [start_eq]
    show ({ small [] with onFault := [reaction] }.adopt ((small []).verifier.start 5)).1 = _
    rw [opened]
    rfl
  show { small [] with onFault := [reaction] }.start.1.finish refusal = _
  rw [started]
  rfl

theorem reached_refused (reaction : Reaction) : (refused reaction).Reached :=
  ⟨(small []).verifier.request, 5, [], [reaction], _, rfl⟩

theorem endsBy_refused (reaction : Reaction) : EndsBy (refused reaction) (.polled refusal) := by
  rw [refused_eq]
  exact ⟨rfl, rfl, rfl⟩

/-- The handler of faults may do what it likes, as long as it does not fail. -/
theorem ending_delivered_once_refused :
    ∃ outcome,
      (refused { moves := [.start, .terminate] }).runNext.verifier.outcome = some outcome
        ∧ ∀ later, deliveries ((refused { moves := [.start, .terminate] }).runNext.run
          later).history = [outcome] := by
  obtain ⟨_, outcome, _, _, stored, told, _⟩ :=
    (ending_delivered_once (reached_refused { moves := [.start, .terminate] })).2 _
      (endsBy_refused _)
  have told := told (by
    rw [refused_eq]
    exact fun fails => fails.2 rfl)
  refine ⟨outcome, stored, fun later => (told later).trans ?_⟩
  rw [refused_eq]
  rfl

/-- The handler of faults fails, and nobody is ever told that the verifier has ended. -/
theorem refused_is_never_delivered :
    (refused { fault := some (.plain .runtime none) }).Reached
      ∧ EndsBy (refused { fault := some (.plain .runtime none) }) (.polled refusal)
      ∧ ∃ outcome, outcome.isTerminal = true
        ∧ (refused { fault := some (.plain .runtime none) }).runNext.verifier.outcome =
          some outcome
        ∧ ∀ later, deliveries ((refused { fault := some (.plain .runtime none) }).runNext.run
          later).history = [] := by
  refine ⟨reached_refused _, endsBy_refused _, ?_⟩
  obtain ⟨outcome, terminal, _, untold⟩ :=
    ended_runNext (endsBy_refused { fault := some (.plain .runtime none) })
  have ended := untold (by
    rw [refused_eq]
    exact ⟨⟨_, rfl⟩, Option.some_ne_none _⟩)
  refine ⟨outcome, terminal, ended.outcome, fun later => (ended.later later).trans ?_⟩
  rw [refused_eq]
  rfl

end Refused

end TransferProof.Verification
