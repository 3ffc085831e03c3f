import TransferProof.Proofs.Poll.Failing
import TransferProof.Proofs.Verification.Answered
import TransferProof.Proofs.Verification.Tale

/-!
# Failed polls

A verifier ends with the first poll that fails. It has ended already when the handler of faults is
told what was at fault, and the handler of results after that. Nothing is asked for any more, and a
failure that comes later is dropped. So in a whole run the handler of faults is called at most once,
and as often as a failed connection is delivered, unless it fails itself on that call.
-/

namespace TransferProof

def Notice.isUnconnected : Notice → Bool
  | .fault _ _ => false
  | .result outcome => outcome.isUnconnected

/-- A genuine poll that has failed did so in one of the ways in which polls fail, and what is
reported is what was at fault in the first place. -/
theorem PollResult.Genuine.fails {request : Request} {fault : Fault}
    (genuine : PollResult.Genuine request (.error fault)) :
    ∃ v client provider agent session, v.request = request
      ∧ Poll.Fails v client provider agent session fault fault.origin := by
  obtain ⟨v, client, provider, agent, session, rfl, ran⟩ := genuine
  obtain ⟨cause, fails⟩ := Poll.run_eq_error_iff.mp ran.symm
  rw [fails.origin_eq]
  exact ⟨v, client, provider, agent, session, rfl, fails⟩

namespace Verifier

def failureNotices (v : Verifier) (fault : Fault) : List Notice :=
  [.fault (v.failureText fault) fault.origin, .result (v.failure fault)]

/-- A decision tells of a failed poll, or of one result at most, which is no failed connection. -/
theorem Ruling.fails_or_connected {v : Verifier} {now : Seconds} {fresh : Nat}
    {callback : Callback} {d : Decision} (ruling : Ruling v now fresh callback d)
    {request : Request}
    (genuine : ∀ result, callback = .polled result → PollResult.Genuine request result) :
    (v.terminated = false ∧ ∃ fault, callback = .polled (.error fault))
      ∨ d.notices = []
      ∨ ∃ outcome : Outcome, d.notices = [.result outcome] ∧ outcome.isUnconnected = false := by
  cases ruling with
  | reopen opening => exact .inr (.inl opening.notices_eq_nil)
  | drop ended records => exact .inr (.inl rfl)
  | ignore live strange records => exact .inr (.inl rfl)
  | wait live tag timely next =>
    refine .inr (.inr ⟨_, rfl, ?_⟩)
    rw [Outcome.isUnconnected, tag]
    rfl
  | conclude live ending records =>
    cases ending with
    | final tag =>
      rcases (genuine _ rfl).fault_or_listed with ⟨fault, impossible⟩ | ⟨other, same, listed⟩
      · cases impossible
      · obtain rfl := Answer.outcome.inj (Except.ok.inj same)
        exact .inr (.inr ⟨_, rfl, listed.isUnconnected⟩)
    | lapsed tag overdue => exact .inr (.inr ⟨_, rfl, rfl⟩)
    | timeout => exact .inr (.inr ⟨_, rfl, rfl⟩)
    | fault words => exact .inl ⟨live, _, rfl⟩

end Verifier

namespace Verification

open Verifier

structure FailsBy (s : Verification) (fault : Fault) : Prop where
  next : s.queue.head? = some (.polled (.error fault))
  live : s.verifier.terminated = false

/-- Since `s` the verifier has ended with this outcome, and the handlers were told of this and of
nothing else. No poll was submitted and no timer armed. -/
structure Concluded (s : Verification) (outcome : Outcome) (notices : List Notice)
    (t : Verification) : Prop where
  ended : t.verifier.terminated = true
  outcome : t.verifier.outcome = some outcome
  told : t.told = s.told ++ notices
  submissions : t.submissions = s.submissions
  armed : t.fresh = s.fresh
  timers : t.timers.Sublist s.timers

section Telling

variable {s t : Verification}

theorem Silent.told_eq (silent : Silent s t) : t.told = s.told := by
  obtain ⟨since, grown, quiet⟩ := silent.history
  rw [told, told, grown, filterMap_append_of_quiet ?_ quiet]
  intro o still
  cases o with
  | reported message cause => cases still
  | delivered outcome time => cases still
  | _ => rfl

theorem told_upon (s : Verification) (notice : Notice) :
    (s.upon notice).told = s.told ++ [notice] := by
  cases notice with
  | fault message cause => exact told_observe { s with onFault := s.onFault.tail } _
  | result outcome => exact told_observe { s with onResult := s.onResult.tail } _

/-- Moves of a handler tell nobody. -/
theorem told_move (s : Verification) (move : Move) : (s.move move).1.told = s.told := by
  cases move with
  | start => exact told_adopt s _
  | terminate => exact told_adopt s _
  | linger seconds => rfl

theorem moveAll_keeps (s : Verification) (last : Option Fault) (moves : List Move) :
    (s.moveAll last moves).1.told = s.told ∧ (s.moveAll last moves).1.onFault = s.onFault := by
  induction moves generalizing s with
  | nil => exact ⟨rfl, rfl⟩
  | cons m rest ih =>
    have told := told_move s m
    have plans := Enduring.move_plans s m
    rw [moveAll]
    cases moved : s.move m with
    | mk t fault =>
      rw [moved] at told plans
      cases fault with
      | none =>
        obtain ⟨later, plan⟩ := ih t
        exact ⟨later.trans told, plan.trans plans.2⟩
      | some fault => exact ⟨told, plans.2⟩

end Telling

namespace Concluded

variable {s t : Verification} {outcome : Outcome} {notices : List Notice}

theorem moveAll (h : Concluded s outcome notices t) (last : Option Fault) (moves : List Move) :
    Concluded s outcome notices (t.moveAll last moves).1 ∧ (t.moveAll last moves).2 = last := by
  have silent : Silent t (t.moveAll last moves).1 :=
    ((lasting_silent t).enduring.moveAll last (fun _ _ => trivial) allFinal_nil (follows_any t)
      ⟨rfl, .refl h.ended⟩).2.2
  have ended : Ended outcome (deliveries t.history) t := ⟨h.ended, h.outcome, rfl⟩
  obtain ⟨moved, fine⟩ := ended.moveAll last moves
  refine ⟨⟨silent.ended, moved.outcome, silent.told_eq.trans h.told,
    silent.submissions.trans h.submissions, silent.armed.trans h.armed,
    silent.timers.trans h.timers⟩, fine⟩

theorem upon (h : Concluded s outcome notices t) (notice : Notice) :
    Concluded s outcome (notices ++ [notice]) (t.upon notice) := by
  have told : (t.upon notice).told = s.told ++ (notices ++ [notice]) := by
    rw [told_upon, h.told, List.append_assoc]
  cases notice with
  | fault message cause => exact ⟨h.ended, h.outcome, told, h.submissions, h.armed, h.timers⟩
  | result other => exact ⟨h.ended, h.outcome, told, h.submissions, h.armed, h.timers⟩

/-- A handler is told, and fails just if that is its plan. -/
theorem tell (h : Concluded s outcome notices t) (notice : Notice) :
    Concluded s outcome (notices ++ [notice]) (t.tell notice).1
      ∧ (t.tell notice).2 = (t.reaction notice).fault := by
  rw [tell_eq]
  exact (h.upon notice).moveAll _ _

theorem noting (h : Concluded s outcome notices t) (fault : Option Fault) :
    Concluded s outcome notices (Verification.noting (t, fault)) := by
  cases fault with
  | none => exact h
  | some fault =>
    refine ⟨h.ended, h.outcome, ?_, h.submissions, h.armed, h.timers⟩
    rw [Verification.noting, told_observe]
    exact (List.append_nil _).trans h.told

theorem tellAll_result (h : Concluded s outcome notices t) (other : Outcome) :
    Concluded s outcome (notices ++ [.result other])
      (Verification.noting (t.tellAll [.result other])) := by
  have heard := (h.tell (.result other)).1
  rw [tellAll]
  cases telling : t.tell (.result other) with
  | mk u fault =>
    rw [telling] at heard
    cases fault <;> exact heard.noting _

/-- The handler of results is told after that of faults, unless the latter fails. -/
theorem tellAll_fault (h : Concluded s outcome [] t) (message : Text) (cause : Fault)
    (other : Outcome) :
    Concluded s outcome
      (if (t.onFault.head?.getD {}).fault = none then [.fault message cause, .result other]
        else [.fault message cause])
      (Verification.noting (t.tellAll [.fault message cause, .result other])) := by
  obtain ⟨heard, last⟩ := h.tell (.fault message cause)
  rw [tellAll]
  cases telling : t.tell (.fault message cause) with
  | mk u fault =>
    rw [telling] at heard last
    obtain rfl : fault = (t.onFault.head?.getD {}).fault := last
    cases failed : (t.onFault.head?.getD {}).fault with
    | none => exact heard.tellAll_result other
    | some fault => exact heard.noting _

end Concluded

/-- The handlers are told of a failed poll by a verifier that has ended with it, that of faults
first, and nothing begins any more. -/
structure Reports (s : Verification) (fault : Fault) : Prop where
  /-- The verifier has ended before it calls a handler. -/
  before : ∃ t, Concluded s (s.verifier.failure fault) [] t ∧ t.onFault = s.onFault
    ∧ s.runNext = noting (t.tellAll (s.verifier.failureNotices fault))
  /-- Both handlers are told, each once, if that of faults returns. -/
  both : (s.onFault.head?.getD {}).fault = none →
    Concluded s (s.verifier.failure fault) (s.verifier.failureNotices fault) s.runNext
  /-- Otherwise the second one is not told. -/
  one : (s.onFault.head?.getD {}).fault ≠ none →
    Concluded s (s.verifier.failure fault)
      [.fault (s.verifier.failureText fault) fault.origin] s.runNext
  after : ∀ later, Silent s.runNext (s.runNext.run later)

theorem FailsBy.reports {s : Verification} {fault : Fault} (fails : FailsBy s fault) :
    Reports s fault := by
  obtain ⟨rest, queued⟩ := List.head?_eq_some_iff.mp fails.next
  have decided : s.verifier.run s.clock s.fresh (.polled (.error fault)) =
      s.verifier.conclude (s.verifier.failure fault) (([] : List LogRecord).map .log)
        [.fault (s.verifier.failureText fault) fault.origin] := by
    rw [Verifier.run, polled, Verifier.fail, if_neg (Bool.eq_false_iff.mp fails.live)]
    rfl
  obtain ⟨t, ran, ended, silent⟩ := runNext_of_conclude queued decided
  have concluded : Concluded s (s.verifier.failure fault) [] t :=
    ⟨ended.ended, ended.outcome, silent.told_eq.trans (List.append_nil _).symm,
      silent.submissions, silent.armed, silent.timers⟩
  have heard := concluded.tellAll_fault (s.verifier.failureText fault) fault.origin
    (s.verifier.failure fault)
  rw [silent.onFault] at heard
  refine ⟨⟨t, concluded, silent.onFault, ran⟩, ?_, ?_, ?_⟩
  · intro fine
    rw [if_pos fine] at heard
    rwa [ran]
  · intro failed
    rw [if_neg failed] at heard
    rwa [ran]
  · intro later
    refine silent_run ?_ later
    rw [ran]
    exact heard.ended

/-- A failure that comes after the end calls no handler and changes nothing about the verifier. -/
theorem late_failure {s : Verification} {fault : Fault}
    (next : s.queue.head? = some (.polled (.error fault)))
    (ended : s.verifier.terminated = true) :
    Silent s s.runNext ∧ s.runNext.told = s.told ∧ s.runNext.verifier = s.verifier := by
  obtain ⟨rest, queued⟩ := List.head?_eq_some_iff.mp next
  have silent : Silent s s.runNext := silent_run ended [.runNext]
  refine ⟨silent, silent.told_eq, ?_⟩
  have dropped : s.verifier.run s.clock s.fresh (.polled (.error fault)) =
      { verifier := s.verifier
        effects := [warn ("Dropping failure " ++ fault.shown ++ ", " ++ s.verifier.text
          ++ " is terminated")] } := by
    rw [Verifier.run, polled, Verifier.fail, if_pos ended]
  rw [runNext_eq queued, dropped]
  rfl

/-- From `s` to `t` the handler of faults is not called, and no failed connection is delivered. -/
structure Calm (s t : Verification) : Prop where
  plan : t.onFault = s.onFault
  told : ∃ outcomes : List Outcome, t.told = s.told ++ outcomes.map .result
    ∧ ∀ outcome ∈ outcomes, outcome.isUnconnected = false

namespace Calm

variable {s t : Verification}

theorem of_eq (plan : t.onFault = s.onFault) (told : t.told = s.told) : Calm s t :=
  ⟨plan, [], told.trans (List.append_nil _).symm, fun _ member => absurd member List.not_mem_nil⟩

theorem noting {outcome : Verification × Option Fault} (calm : Calm s outcome.1) :
    Calm s (Verification.noting outcome) := by
  obtain ⟨t, _ | fault⟩ := outcome
  · exact calm
  · obtain ⟨outcomes, told, connected⟩ := calm.told
    refine ⟨calm.plan, outcomes, ?_, connected⟩
    rw [Verification.noting, told_observe]
    exact (List.append_nil _).trans told

theorem adopt (s : Verification) (d : Decision) : Calm s (s.adopt d).1 :=
  .of_eq (adopt_plans s d).2 (told_adopt s d)

/-- A decision that tells of no fault keeps calm, whatever the handler of results does. -/
theorem enact {d : Decision} (connected : d.notices = []
      ∨ ∃ outcome : Outcome, d.notices = [.result outcome] ∧ outcome.isUnconnected = false) :
    Calm s (s.enact d).1 := by
  have adopted := Calm.adopt s d
  have told := told_adopt s d
  rw [Verification.enact]
  cases taken : s.adopt d with
  | mk t fault =>
    rw [taken] at adopted told
    cases fault with
    | some fault => exact adopted
    | none =>
      rcases connected with nobody | ⟨outcome, result, connected⟩
      · rw [nobody]
        exact adopted
      · have heard := moveAll_keeps (t.upon (.result outcome)) (t.reaction (.result outcome)).fault
          (t.reaction (.result outcome)).moves
        rw [← tell_eq, told_upon, show t.told = s.told from told] at heard
        rw [result]
        dsimp only
        rw [tellAll]
        cases telling : t.tell (.result outcome) with
        | mk u fault =>
          rw [telling] at heard
          have calm : Calm s u := by
            refine ⟨heard.2.trans adopted.plan, [outcome], heard.1, ?_⟩
            intro other member
            rwa [List.mem_singleton.mp member]
          cases fault <;> exact calm

/-- A step keeps calm, unless it is the callback of a failed poll before the end. -/
theorem step {request : Request}
    (genuine : ∀ result, .polled result ∈ s.queue → PollResult.Genuine request result)
    (event : Event) : Calm s (s.step event) ∨ event = .runNext ∧ ∃ fault, FailsBy s fault := by
  cases event with
  | start =>
    left
    rw [Verification.step, start_eq]
    exact .adopt s _
  | terminate =>
    left
    exact .enact (Or.inl rfl)
  | finish result =>
    left
    rw [Verification.step, finish]
    split <;> exact .of_eq rfl rfl
  | fire timer =>
    left
    rw [Verification.step, fire]
    split <;> exact .of_eq rfl rfl
  | tick time => exact .inl (.of_eq rfl rfl)
  | closePool => exact .inl (.of_eq rfl rfl)
  | runNext =>
    cases queued : s.queue with
    | nil =>
      left
      rw [Verification.step, runNext, queued]
      exact .of_eq rfl rfl
    | cons callback rest =>
      have ruling := ruling_run s.verifier s.clock s.fresh callback
      have answers : ∀ result, callback = .polled result → PollResult.Genuine request result := by
        rintro result rfl
        refine genuine result ?_
        rw [queued]
        exact List.mem_cons_self
      rcases ruling.fails_or_connected answers with ⟨live, fault, rfl⟩ | connected
      · refine .inr ⟨rfl, fault, ?_, live⟩
        rw [queued]
        rfl
      · left
        rw [Verification.step, runNext_eq queued]
        have calm := Calm.enact (s := { s with queue := rest }) connected
        exact Calm.noting { calm with }

end Calm

/-- How often the handlers were told of failed polls: never, or once each. Only if the handler of
faults, which follows this plan, has failed, that of results was not told. -/
def Counted (plan : List Reaction) (s : Verification) : Prop :=
  (s.told.countP Notice.isFault = 0 ∧ s.told.countP Notice.isUnconnected = 0
      ∧ s.onFault = plan)
    ∨ s.verifier.terminated = true ∧ s.told.countP Notice.isFault = 1
      ∧ s.told.countP Notice.isUnconnected =
        if (plan.head?.getD {}).fault = none then 1 else 0

namespace Counted

variable {plan : List Reaction} {s t : Verification}

/-- Results that are no failed connections do not count. -/
theorem of_told (counted : Counted plan s) (plans : t.onFault = s.onFault)
    (ended : s.verifier.terminated = true → t.verifier.terminated = true)
    {outcomes : List Outcome} (told : t.told = s.told ++ outcomes.map .result)
    (connected : ∀ outcome ∈ outcomes, outcome.isUnconnected = false) : Counted plan t := by
  have faults : (outcomes.map Notice.result).countP Notice.isFault = 0 := by
    rw [List.countP_eq_zero]
    intro notice member
    obtain ⟨outcome, _, rfl⟩ := List.mem_map.mp member
    exact Bool.false_ne_true
  have failures : (outcomes.map Notice.result).countP Notice.isUnconnected = 0 := by
    rw [List.countP_eq_zero]
    intro notice member
    obtain ⟨outcome, among, rfl⟩ := List.mem_map.mp member
    exact Bool.eq_false_iff.mp (connected outcome among)
  rw [Counted, told, List.countP_append, List.countP_append, faults, failures, plans]
  exact counted.imp id fun h => ⟨ended h.1, h.2⟩

theorem reports (counted : Counted plan s) {fault : Fault} (fails : FailsBy s fault) :
    Counted plan s.runNext := by
  rcases counted with ⟨faults, failures, same⟩ | ⟨ended, _⟩
  · have reports := fails.reports
    right
    by_cases fine : (plan.head?.getD {}).fault = none
    · have both := reports.both (by rwa [same])
      rw [if_pos fine, both.told, List.countP_append, List.countP_append, faults, failures]
      exact ⟨both.ended, rfl, rfl⟩
    · have one := reports.one (by rwa [same])
      rw [if_neg fine, one.told, List.countP_append, List.countP_append, faults, failures]
      exact ⟨one.ended, rfl, rfl⟩
  · exact absurd (fails.live.symm.trans ended) Bool.false_ne_true

theorem step {request : Request} (counted : Counted plan s)
    (genuine : ∀ result, .polled result ∈ s.queue → PollResult.Genuine request result)
    (event : Event) : Counted plan (s.step event) := by
  rcases Calm.step genuine event with calm | ⟨rfl, fault, fails⟩
  · obtain ⟨outcomes, told, connected⟩ := calm.told
    refine counted.of_told calm.plan ?_ told connected
    intro ended
    exact (silent_run ended [event]).ended
  · exact counted.reports fails

theorem run {request : Request} {events : List Event} (counted : Counted plan s)
    (relays : Relays (PollResult.Genuine request) (fun _ => True) [] s)
    (genuine : ∀ result, .finish result ∈ events → PollResult.Genuine request result) :
    Counted plan (s.run events)
      ∧ Relays (PollResult.Genuine request) (fun _ => True) [] (s.run events) := by
  -- What a step tells depends on the results that wait, so they are carried along as genuine.
  have lasts : Lasting (fun _ => True)
      (fun event => ∀ result, event = .finish result → PollResult.Genuine request result)
      (Relays (PollResult.Genuine request) fun _ => True) :=
    lasting_relays fun _ _ _ _ => trivial
  induction events generalizing s with
  | nil => exact ⟨counted, relays⟩
  | cons event rest ih =>
    have allowed : ∀ result, event = .finish result → PollResult.Genuine request result := by
      rintro result rfl
      exact genuine result List.mem_cons_self
    have relayed := (lasts.enduring.step allowed (follows_any s) relays).2
    exact ih (counted.step relays.queued event) relayed
      fun result member => genuine result (List.mem_cons_of_mem _ member)

end Counted

structure FailureLaw (request : Request) (plan : List Reaction) (s : Verification) : Prop where
  /-- Whatever fault a poll has ended in, it came up in one of the ways in which polls fail. -/
  traced : ∀ fault, .polled (.error fault) ∈ s.queue →
    ∃ v client provider agent session, v.request = request
      ∧ Poll.Fails v client provider agent session fault fault.origin
  reports : ∀ fault, FailsBy s fault → Reports s fault
  late : ∀ fault, s.queue.head? = some (.polled (.error fault)) → s.verifier.terminated = true →
    Silent s s.runNext ∧ s.runNext.told = s.told ∧ s.runNext.verifier = s.verifier
  once : s.told.countP Notice.isFault ≤ 1
  both : (plan.head?.getD {}).fault = none →
    s.told.countP Notice.isFault = s.told.countP Notice.isUnconnected
  one : (plan.head?.getD {}).fault ≠ none → s.told.countP Notice.isUnconnected = 0

theorem Counted.failureLaw {request : Request} {plan : List Reaction} {s : Verification}
    (counted : Counted plan s)
    (genuine : ∀ result, .polled result ∈ s.queue → PollResult.Genuine request result) :
    FailureLaw request plan s where
  traced := fun _ queued => (genuine _ queued).fails
  reports := fun _ fails => fails.reports
  late := fun _ next ended => late_failure next ended
  once := by
    rcases counted with ⟨faults, _⟩ | ⟨_, faults, _⟩
    · rw [faults]
      exact Nat.zero_le 1
    · exact Nat.le_of_eq faults
  both := by
    intro fine
    rcases counted with ⟨faults, failures, _⟩ | ⟨_, faults, failures⟩
    · rw [faults, failures]
    · rw [faults, failures, if_pos fine]
  one := by
    intro failed
    rcases counted with ⟨_, failures, _⟩ | ⟨_, _, failures⟩
    · exact failures
    · rw [failures, if_neg failed]

/-- A poll fails in a few ways, and in each of them what is reported is what was at fault in the
first place. In every run the handler of faults is called at most once, by a verifier that has ended
with the failure, and just before the failed connection is delivered. So it is called as often as a
failed connection is delivered, if it returns; the latter is delivered to nobody if it does not. -/
theorem failureLaw_run (request : Request) (clock : Seconds) (onResult onFault : List Reaction)
    {events : List Event} (genuine : ∀ result, .finish result ∈ events → result.Genuine request) :
    (∀ v client provider agent session fault,
        Poll.run v client provider agent session (.standard v.request) = .error fault ↔
          ∃ cause, Poll.Fails v client provider agent session fault cause)
      ∧ (∀ v client provider agent session fault cause,
        Poll.Fails v client provider agent session fault cause → fault.origin = cause)
      ∧ FailureLaw request onFault ((ofRequest request clock onResult onFault).run events) := by
  refine ⟨fun _ _ _ _ _ _ => Poll.run_eq_error_iff, fun _ _ _ _ _ _ _ fails => fails.origin_eq, ?_⟩
  have begun : Counted onFault (ofRequest request clock onResult onFault) :=
    Or.inl ⟨rfl, rfl, rfl⟩
  have relays : Relays (PollResult.Genuine request) (fun _ => True) []
      (ofRequest request clock onResult onFault) :=
    ⟨fun _ member => absurd member List.not_mem_nil, fun _ _ => trivial, fun _ _ => trivial⟩
  obtain ⟨counted, relayed⟩ := begun.run relays genuine
  exact counted.failureLaw relayed.queued

section Unavailable

/-- A poll to which the service answers that it is not available. -/
def busyPoll : PollResult :=
  Poll.run (small []).verifier {} none "agent"
    (fun _ => .response 503 (some "Service Unavailable") []) (.standard (small []).verifier.request)

def busyEvents : List Event := [.start, .finish busyPoll, .runNext]

def busy (reaction : Reaction) : Verification :=
  (ofRequest (small []).verifier.request 5 [] [reaction]).run busyEvents

theorem genuine_of_mem_busyEvents :
    ∀ result, .finish result ∈ busyEvents → result.Genuine (small []).verifier.request := by
  intro result member
  simp only [busyEvents, List.mem_cons, reduceCtorEq, false_or, Event.finish.injEq,
    List.not_mem_nil, or_false] at member
  subst member
  exact ⟨(small []).verifier, {}, none, "agent", _, rfl, rfl⟩

/-- The handler of faults starts the verifier again, and both handlers are told all the same. -/
theorem failureLaw_run_busy :
    (busy { moves := [.start] }).told.map Notice.isFault = [true, false]
      ∧ FailureLaw (small []).verifier.request [{ moves := [.start] }]
        (busy { moves := [.start] }) :=
  ⟨by decide +kernel, (failureLaw_run _ _ _ _ genuine_of_mem_busyEvents).2.2⟩

end Unavailable

end Verification

end TransferProof
