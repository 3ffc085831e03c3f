import TransferProof.Proofs.Classifier.Answers
import TransferProof.Proofs.Verification.Chain
import TransferProof.Proofs.Verification.Told

/-!
# The tale of a verification

A verification is started once and left alone from then on, its handlers follow a habit, and the
answers are those of the classifier. Then its handlers are told of pending outcomes and at the end
of one final outcome, which is the one that is stored. If the way to the service was at fault the
handler of faults is told of that just before, and otherwise it is told of nothing. Only if it fails
then is the final outcome not told.
-/

namespace TransferProof

/-- The way to the service is at fault. -/
def Outcome.isUnconnected (outcome : Outcome) : Bool :=
  outcome.tag == .error && outcome.detail.any fun detail => detail.kind == .connectionFailure

/-- How a tale ends: with a final outcome, and with a fault before it if the way to the service is
at fault. -/
inductive Conclusion : Outcome → List Notice → Prop where
  | answered {outcome : Outcome}
      (final : outcome.tag = .success ∨ outcome.tag = .failed ∨ outcome.tag = .error)
      (connected : outcome.isUnconnected = false) : Conclusion outcome [.result outcome]
  | unconnected (message : Text) (cause : Fault) :
      Conclusion (.error .connectionFailure (some message))
        [.fault message cause, .result (.error .connectionFailure (some message))]

def Inconclusive (notices : List Notice) : Prop :=
  ∃ pendings : List Outcome, (∀ pending ∈ pendings, pending.tag = .pending)
    ∧ notices = pendings.map .result

/-- Pending outcomes and a conclusion. -/
def Tale (outcome : Outcome) (notices : List Notice) : Prop :=
  ∃ before conclusion, Inconclusive before ∧ Conclusion outcome conclusion
    ∧ notices = before ++ conclusion

theorem Conclusion.final {outcome : Outcome} {notices : List Notice}
    (conclusion : Conclusion outcome notices) :
    outcome.tag = .success ∨ outcome.tag = .failed ∨ outcome.tag = .error := by
  cases conclusion with
  | answered final connected => exact final
  | unconnected message cause => exact .inr (.inr rfl)

theorem Conclusion.isTerminal {outcome : Outcome} {notices : List Notice}
    (conclusion : Conclusion outcome notices) : outcome.isTerminal = true := by
  rcases conclusion.final with tag | tag | tag <;> simp [Outcome.isTerminal, tag]

theorem Conclusion.result_mem {outcome : Outcome} {notices : List Notice}
    (conclusion : Conclusion outcome notices) : .result outcome ∈ notices := by
  cases conclusion with
  | answered final connected => exact List.mem_singleton.mpr rfl
  | unconnected message cause => exact List.mem_cons_of_mem _ (List.mem_singleton.mpr rfl)

theorem Classifier.Listed.isUnconnected {request : Request} {outcome : Outcome}
    (listed : Classifier.Listed request outcome) :
    outcome.isUnconnected = false := by
  cases listed <;> rfl

theorem Classifier.Listed.isKnown {request : Request} {outcome : Outcome}
    (listed : Classifier.Listed request outcome) :
    PollResult.isKnown (.ok (.outcome outcome)) = true := by
  cases listed <;> rfl

theorem PollResult.Genuine.isKnown {request : Request} {result : PollResult}
    (genuine : PollResult.Genuine request result) : PollResult.isKnown result = true := by
  rcases genuine.fault_or_listed with ⟨fault, rfl⟩ | ⟨outcome, rfl, listed⟩
  · rfl
  · exact listed.isKnown

def Verifier.failureText (v : Verifier) (fault : Fault) : Text :=
  v.text ++ " failed with error " ++ fault.shown

def Verifier.failure (v : Verifier) (fault : Fault) : Outcome :=
  .error .connectionFailure (some (v.failureText fault))

/-- The handler of faults has failed when it was told of a failed poll, and nobody was told of the
outcome. -/
structure BrokenOff (request : Request) (habit : Habit) (fault : Fault) (outcome : Outcome)
    (notices : List Notice) : Prop where
  genuine : PollResult.Genuine request (.error fault)
  failed : habit (.reported (Verifier.failureText { request } fault) fault.origin) ≠ none
  outcome : outcome = Verifier.failure { request } fault
  told : ∃ before, Inconclusive before
    ∧ notices = before ++ [.fault (Verifier.failureText { request } fault) fault.origin]

/-- The whole tale has been told, and the handler of faults has not failed. -/
structure Finished (habit : Habit) (outcome : Outcome) (notices : List Notice) : Prop where
  tale : Tale outcome notices
  taken : ∀ message cause, .fault message cause ∈ notices → habit (.reported message cause) = none

inductive Traced (request : Request) : Notice → Prop where
  | listed {outcome : Outcome} (listed : Classifier.Listed request outcome) :
      Traced request (.result outcome)
  | overdue : Traced request (.result Verifier.overdueOutcome)
  | fault {fault : Fault} (genuine : PollResult.Genuine request (.error fault)) :
      Traced request (.fault (Verifier.failureText { request } fault) fault.origin)
  | failure {fault : Fault} (genuine : PollResult.Genuine request (.error fault)) :
      Traced request (.result (Verifier.failure { request } fault))

theorem Inconclusive.nil : Inconclusive [] :=
  ⟨[], fun _ none => absurd none List.not_mem_nil, rfl⟩

theorem Inconclusive.concat {notices : List Notice} (inconclusive : Inconclusive notices)
    {outcome : Outcome} (tag : outcome.tag = .pending) : Inconclusive (notices ++ [.result outcome]) := by
  obtain ⟨pendings, pending, rfl⟩ := inconclusive
  refine ⟨pendings ++ [outcome], ?_, by rw [List.map_append]; rfl⟩
  intro other member
  rcases List.mem_append.mp member with old | new
  · exact pending other old
  · rw [List.mem_singleton.mp new, tag]

theorem Inconclusive.tag_of_mem {notices : List Notice} (inconclusive : Inconclusive notices)
    {notice : Notice} (member : notice ∈ notices) :
    ∃ outcome : Outcome, notice = .result outcome ∧ outcome.tag = .pending := by
  obtain ⟨pendings, pending, rfl⟩ := inconclusive
  obtain ⟨outcome, among, rfl⟩ := List.mem_map.mp member
  exact ⟨outcome, rfl, pending outcome among⟩

theorem Finished.of_answer {habit : Habit} {now : Seconds} {outcome : Outcome}
    {before : List Notice} (inconclusive : Inconclusive before)
    (conclusion : Conclusion outcome [.result outcome]) :
    Finished habit outcome (before ++ habit.heard now [.result outcome]) := by
  rw [Habit.heard_singleton]
  refine ⟨⟨before, _, inconclusive, conclusion, rfl⟩, fun message cause member => ?_⟩
  rcases List.mem_append.mp member with old | new
  · obtain ⟨_, impossible, -⟩ := inconclusive.tag_of_mem old
    cases impossible
  · cases List.mem_singleton.mp new

/-- A verifier that hears only of genuine results concludes as a tale ends, or breaks it off. -/
theorem Verifier.Ending.concludes {v : Verifier} {now : Seconds} {callback : Callback}
    {outcome : Outcome} {last before : List Notice}
    (ending : Verifier.Ending v now callback outcome last) {request : Request}
    (asked : v.request = request)
    (genuine : ∀ result, callback = .polled result → PollResult.Genuine request result)
    (inconclusive : Inconclusive before) (habit : Habit) :
    Finished habit outcome (before ++ habit.heard now (last ++ [.result outcome]))
      ∨ ∃ fault, BrokenOff request habit fault outcome
        (before ++ habit.heard now (last ++ [.result outcome])) := by
  subst asked
  cases ending with
  | final tag =>
    rcases (genuine _ rfl).fault_or_listed with ⟨fault, impossible⟩ | ⟨other, same, listed⟩
    · cases impossible
    · obtain rfl := Answer.outcome.inj (Except.ok.inj same)
      exact .inl (.of_answer inconclusive (.answered tag listed.isUnconnected))
  | lapsed tag overdue => exact .inl (.of_answer inconclusive (.answered (.inr (.inr rfl)) rfl))
  | timeout => exact .inl (.of_answer inconclusive (.answered (.inr (.inr rfl)) rfl))
  | @fault fault message words =>
    obtain rfl : message = v.failureText fault := words
    rw [List.singleton_append, Habit.heard_fault]
    by_cases taken : habit (.reported (v.failureText fault) fault.origin) = none
    · rw [if_pos taken]
      refine .inl ⟨⟨before, _, inconclusive, .unconnected _ _, rfl⟩, fun message cause member => ?_⟩
      rcases List.mem_append.mp member with old | new
      · obtain ⟨_, impossible, -⟩ := inconclusive.tag_of_mem old
        cases impossible
      · rcases List.mem_cons.mp new with same | other
        · obtain ⟨rfl, rfl⟩ := Notice.fault.inj same
          exact taken
        · cases List.mem_singleton.mp other
    · rw [if_neg taken]
      exact .inr ⟨fault, genuine _ rfl, taken, rfl, before, inconclusive, rfl⟩

/-- Whatever a verifier tells that hears only of genuine results is traced to one of them. -/
theorem Verifier.Ruling.traced {v : Verifier} {now : Seconds} {fresh : Nat} {callback : Callback}
    {d : Decision} (ruling : Verifier.Ruling v now fresh callback d) {request : Request}
    (asked : v.request = request)
    (genuine : ∀ result, callback = .polled result → PollResult.Genuine request result) :
    ∀ notice ∈ d.notices, Traced request notice := by
  have listed {outcome : Outcome} (brings : callback = .polled (.ok (.outcome outcome))) :
      Traced request (.result outcome) := by
    rcases (genuine _ brings).fault_or_listed with ⟨fault, impossible⟩ | ⟨other, same, listed⟩
    · cases impossible
    · obtain rfl := Answer.outcome.inj (Except.ok.inj same)
      exact .listed listed
  subst asked
  cases ruling with
  | reopen opening =>
    rw [opening.notices_eq_nil]
    exact fun _ none => absurd none List.not_mem_nil
  | drop ended records => exact fun _ none => absurd none List.not_mem_nil
  | ignore live strange records => exact fun _ none => absurd none List.not_mem_nil
  | wait live tag timely next => exact List.forall_mem_singleton.mpr (listed rfl)
  | conclude live ending records =>
    cases ending with
    | final tag => exact List.forall_mem_singleton.mpr (listed rfl)
    | lapsed tag overdue => exact List.forall_mem_singleton.mpr .overdue
    | timeout => exact List.forall_mem_singleton.mpr .overdue
    | fault words =>
      subst words
      exact List.forall_mem_cons.mpr
        ⟨.fault (genuine _ rfl), List.forall_mem_singleton.mpr (.failure (genuine _ rfl))⟩

namespace Verification

open Verifier

/-- What holds of a verification that is left alone, from its start on. -/
structure Course (request : Request) (habit : Habit) (s : Verification) : Prop where
  asked : s.verifier.request = request
  chain : Chain s
  alive : Alive s
  genuine : ∀ result, .polled result ∈ s.queue → PollResult.Genuine request result
  traced : ∀ notice ∈ s.told, Traced request notice
  waiting : s.verifier.terminated = false → Inconclusive s.told
  /-- At the end the handlers have been told of the outcome that is stored, unless one failed. -/
  ended : s.verifier.terminated = true → ∃ outcome, s.verifier.outcome = some outcome
    ∧ (Finished habit outcome s.told ∨ ∃ fault, BrokenOff request habit fault outcome s.told)
  /-- Nothing is under way after the end. -/
  idle : s.verifier.terminated = true → Idle s

def Event.IsNatural (request : Request) : Event → Prop
  | .finish result => PollResult.Genuine request result
  | .runNext | .fire _ | .tick _ => True
  | .start | .terminate | .closePool => False

def stepBy (habit : Habit) (s : Verification) : Event → Verification
  | .runNext => s.runNextBy habit
  | event => s.step event

def runBy (habit : Habit) (s : Verification) (events : List Event) : Verification :=
  events.foldl (stepBy habit) s

namespace Course

variable {request : Request} {habit : Habit} {s : Verification}

/-- What the handlers are not told of makes no difference. -/
theorem observe (course : Course request habit s) {o : Observation} (silent : o.notice? = none) :
    Course request habit (s.observe o) := by
  have same : (s.observe o).told = s.told := by
    rw [told_observe, silent]
    exact List.append_nil _
  exact {
    asked := course.asked
    chain := { course.chain with }
    alive := { course.alive with }
    genuine := course.genuine
    traced := by rw [same]; exact course.traced
    waiting := by rw [same]; exact course.waiting
    ended := by rw [same]; exact course.ended
    idle := fun ended => (course.idle ended).congr rfl rfl rfl rfl }

theorem tick (course : Course request habit s) (time : Seconds) :
    Course request habit (s.tick time) where
  asked := course.asked
  chain := { course.chain with }
  alive := { course.alive with }
  genuine := course.genuine
  traced := course.traced
  waiting := course.waiting
  ended := course.ended
  idle := fun ended => (course.idle ended).congr rfl rfl rfl rfl

theorem finish (course : Course request habit s) {result : PollResult}
    (genuine : PollResult.Genuine request result) : Course request habit (s.finish result) := by
  have chain := chain_finish course.chain result
  have alive := alive_finish course.alive genuine.isKnown
  rw [Verification.finish] at chain alive ⊢
  split
  case isTrue => exact course
  case isFalse busy =>
    rw [if_neg busy] at chain alive
    refine ⟨course.asked, chain, alive, ?_, course.traced, course.waiting, course.ended, ?_⟩
    · intro other member
      rcases List.mem_append.mp member with queued | new
      · exact course.genuine other queued
      · obtain rfl := Callback.polled.inj (List.mem_singleton.mp new)
        exact genuine
    · intro ended
      exact absurd (course.idle ended).tasks busy

theorem fire (course : Course request habit s) (timer : Timer) :
    Course request habit (s.fire timer) := by
  obtain ⟨chain, alive⟩ := chain_fire course.chain timer
  have alive := alive course.alive
  rw [Verification.fire] at chain alive ⊢
  split
  case isFalse => exact course
  case isTrue armed =>
    rw [if_pos armed] at chain alive
    refine ⟨course.asked, chain, alive, ?_, course.traced, course.waiting, course.ended, ?_⟩
    · intro result member
      rcases List.mem_append.mp member with queued | new
      · exact course.genuine result queued
      · cases List.mem_singleton.mp new
    · intro ended
      rw [(course.idle ended).timers] at armed
      cases armed

/-- Nobody acts on a callback after the end, for there is none. -/
theorem live_of_queued (course : Course request habit s) {callback : Callback}
    {rest : List Callback} (queued : s.queue = callback :: rest) :
    s.verifier.terminated = false := by
  cases ended : s.verifier.terminated with
  | false => rfl
  | true =>
    rw [(course.idle ended).queue] at queued
    cases queued

/-- The oldest callback brings nothing but genuine results. -/
theorem genuine_of_queued (course : Course request habit s) {callback : Callback}
    {rest : List Callback} (queued : s.queue = callback :: rest) :
    ∀ result, callback = .polled result → PollResult.Genuine request result := by
  rintro result rfl
  refine course.genuine result ?_
  rw [queued]
  exact List.mem_cons_self

/-- What a decision adds to the tale. -/
theorem ruled (course : Course request habit s) {callback : Callback} {rest : List Callback}
    {d : Decision} (queued : s.queue = callback :: rest)
    (ruling : Ruling s.verifier s.clock s.fresh callback d) :
    (d.verifier.terminated = false → Inconclusive (s.told ++ habit.heard s.clock d.notices))
      ∧ (d.verifier.terminated = true → ∃ outcome, d.verifier.outcome = some outcome
        ∧ (Finished habit outcome (s.told ++ habit.heard s.clock d.notices)
          ∨ ∃ fault, BrokenOff request habit fault outcome
            (s.told ++ habit.heard s.clock d.notices))) := by
  have live := course.live_of_queued queued
  have genuine := course.genuine_of_queued queued
  have inconclusive := course.waiting live
  cases ruling with
  | reopen opening =>
    rw [opening.verifier_eq, opening.notices_eq_nil, Habit.heard, List.append_nil, live]
    exact ⟨fun _ => inconclusive, fun impossible => absurd impossible Bool.false_ne_true⟩
  | drop ended records => exact absurd (live.symm.trans ended) Bool.false_ne_true
  | ignore _ strange records =>
    have known := (genuine _ rfl).isKnown
    rw [strange.not_isKnown] at known
    cases known
  | wait _ tag timely next =>
    rw [Habit.heard_singleton]
    exact ⟨fun _ => inconclusive.concat tag,
      fun ended => absurd (live.symm.trans ended) Bool.false_ne_true⟩
  | conclude _ ending records =>
    refine ⟨fun impossible => absurd impossible.symm Bool.false_ne_true, fun _ => ⟨_, rfl, ?_⟩⟩
    exact ending.concludes course.asked genuine inconclusive habit

/-- A decision about the oldest callback, and the notices that go with it. -/
theorem adopt (course : Course request habit s) {callback : Callback} {rest : List Callback}
    {d : Decision} (queued : s.queue = callback :: rest)
    (ruling : Ruling s.verifier s.clock s.fresh callback d) :
    Course request habit
      (hear ({ s with queue := rest }.adopt d).1 (habit.heard s.clock d.notices)) := by
  have oldest : callback ∈ s.queue := by
    rw [queued]
    exact List.mem_cons_self
  have decided := adopt_verifier { s with queue := rest } d
  have added := (queue_adopt { s with queue := rest } d).2
  obtain ⟨waiting, ended⟩ := course.ruled queued ruling
  obtain ⟨chain, alive⟩ := chain_ruling course.chain queued ruling
  have alive := alive (course.alive.known callback oldest)
  have told : (hear ({ s with queue := rest }.adopt d).1 (habit.heard s.clock d.notices)).told =
      s.told ++ habit.heard s.clock d.notices := by
    rw [told_hear, told_adopt]
    rfl
  have traced : ∀ notice ∈ s.told ++ habit.heard s.clock d.notices, Traced request notice := by
    intro notice member
    rcases List.mem_append.mp member with old | new
    · exact course.traced notice old
    · exact ruling.traced course.asked (course.genuine_of_queued queued) notice
        (habit.heard_subset s.clock d.notices new)
  have idle : d.verifier.terminated = true → Idle ({ s with queue := rest }.adopt d).1 := by
    intro ends
    obtain ⟨outcome, before, records, _, rfl⟩ :=
      ruling.eq_conclude (course.live_of_queued queued) ends
    exact idle_conclude (course.chain.pop queued) outcome records before
  rw [← told, ← decided] at waiting ended
  rw [← told] at traced
  rw [← decided] at idle
  rw [hear_eq] at waiting ended traced ⊢
  exact {
    asked := by
      dsimp only
      rw [decided, ruling.request_eq, course.asked]
    chain := { chain with }
    alive := { alive with }
    genuine := by
      intro result member
      rcases added _ member with old | new
      · refine course.genuine result ?_
        rw [queued]
        exact List.mem_cons_of_mem _ old
      · cases ((ruling.reopens new rfl).2.of_enqueue new).1
    traced := traced
    waiting := waiting
    ended := ended
    idle := fun ends => (idle ends).congr rfl rfl rfl rfl }

theorem runNextBy (course : Course request habit s) :
    Course request habit (s.runNextBy habit) := by
  cases queued : s.queue with
  | nil =>
    rw [Verification.runNextBy, queued]
    exact course
  | cons callback rest =>
    obtain ⟨d, fault, ruling, ran⟩ := runNextBy_eq habit queued
    have adopted := course.adopt queued ruling
    rw [ran]
    cases fault with
    | none => exact adopted
    | some fault => exact adopted.observe rfl

theorem stepBy (course : Course request habit s) {event : Event}
    (natural : event.IsNatural request) : Course request habit (s.stepBy habit event) := by
  cases event with
  | finish result => exact course.finish natural
  | runNext => exact course.runNextBy
  | fire timer => exact course.fire timer
  | tick time => exact course.tick time
  | start | terminate | closePool => cases natural

theorem runBy (course : Course request habit s) {events : List Event}
    (natural : ∀ event ∈ events, event.IsNatural request) :
    Course request habit (s.runBy habit events) := by
  induction events generalizing s with
  | nil => exact course
  | cons event rest ih =>
    exact ih (course.stepBy (natural event List.mem_cons_self))
      fun other member => natural other (List.mem_cons_of_mem _ member)

/-- The handlers have been told of a final outcome just when the whole tale has been told. -/
theorem isFinal_iff (course : Course request habit s) :
    (∃ o ∈ s.history, o.isFinal = true) ↔
      ∃ outcome, s.verifier.outcome = some outcome ∧ Finished habit outcome s.told := by
  constructor
  · rintro ⟨o, member, final⟩
    cases o with
    | delivered outcome time =>
      have told := mem_told.mpr ⟨time, member⟩
      have decided {notices : List Notice} (inconclusive : Inconclusive notices) :
          .result outcome ∉ notices := by
        intro among
        obtain ⟨other, same, tag⟩ := inconclusive.tag_of_mem among
        obtain rfl := Notice.result.inj same
        rw [Observation.isFinal, Outcome.isTerminal, tag] at final
        cases final
      cases ended : s.verifier.terminated with
      | false => exact absurd told (decided (course.waiting ended))
      | true =>
        obtain ⟨last, stored, finished | ⟨fault, broken⟩⟩ := course.ended ended
        · exact ⟨last, stored, finished⟩
        · obtain ⟨before, inconclusive, same⟩ := broken.told
          rw [same] at told
          rcases List.mem_append.mp told with old | new
          · exact absurd old (decided inconclusive)
          · cases List.mem_singleton.mp new
    | _ => cases final
  · rintro ⟨outcome, -, ⟨before, conclusion, -, concludes, same⟩, -⟩
    obtain ⟨time, member⟩ := mem_told.mp
      (same ▸ List.mem_append_right _ concludes.result_mem)
    exact ⟨_, member, concludes.isTerminal⟩

/-- Where nothing is under way nothing but the clock changes. -/
theorem still_stepBy (habit : Habit) (idle : Idle s) {event : Event}
    (natural : event.IsNatural request) :
    (s.stepBy habit event).verifier = s.verifier ∧ (s.stepBy habit event).told = s.told := by
  cases event with
  | finish result =>
    change (s.finish result).verifier = _ ∧ (s.finish result).told = _
    rw [Verification.finish, if_pos idle.tasks]
    exact ⟨rfl, rfl⟩
  | runNext =>
    change (s.runNextBy habit).verifier = _ ∧ (s.runNextBy habit).told = _
    rw [Verification.runNextBy, idle.queue]
    exact ⟨rfl, rfl⟩
  | fire timer =>
    change (s.fire timer).verifier = _ ∧ (s.fire timer).told = _
    rw [Verification.fire, idle.timers, if_neg List.not_mem_nil]
    exact ⟨rfl, rfl⟩
  | tick time => exact ⟨rfl, rfl⟩
  | start | terminate | closePool => cases natural

/-- Nothing but the clock changes after the end. -/
theorem still (course : Course request habit s) (ended : s.verifier.terminated = true)
    {events : List Event} (natural : ∀ event ∈ events, event.IsNatural request) :
    (s.runBy habit events).verifier = s.verifier ∧ (s.runBy habit events).told = s.told := by
  induction events generalizing s with
  | nil => exact ⟨rfl, rfl⟩
  | cons event rest ih =>
    have here := still_stepBy habit (course.idle ended) (natural event List.mem_cons_self)
    have later := ih (course.stepBy (natural event List.mem_cons_self))
      (by rw [here.1]; exact ended)
      fun other member => natural other (List.mem_cons_of_mem _ member)
    exact ⟨later.1.trans here.1, later.2.trans here.2⟩

end Course

structure Unstarted (request : Request) (s : Verification) : Prop where
  asked : s.verifier.request = request
  live : s.verifier.terminated = false
  idle : Idle s
  told : s.told = []

theorem unstarted_ofRequest (request : Request) (clock : Seconds)
    (onResult onFault : List Reaction) :
    Unstarted request (ofRequest request clock onResult onFault) :=
  ⟨rfl, rfl, ⟨rfl, rfl, rfl, rfl⟩, rfl⟩

/-- The course of a verification begins with its start. -/
theorem Unstarted.start {request : Request} {s : Verification} (unstarted : Unstarted request s)
    (habit : Habit) : Course request habit s.start.1 := by
  have opening := opening_start s.verifier s.clock
  obtain ⟨chain, alive⟩ := chain_opening unstarted.idle opening
  have told := (told_adopt s (s.verifier.start s.clock)).trans unstarted.told
  have same : (s.adopt (s.verifier.start s.clock)).1.verifier = s.verifier :=
    (adopt_verifier s _).trans opening.verifier_eq
  have live : (s.adopt (s.verifier.start s.clock)).1.verifier.terminated = false := by
    rw [same, unstarted.live]
  rw [start_eq]
  exact {
    asked := by rw [same, unstarted.asked]
    chain := chain
    alive := alive
    genuine := by
      intro result member
      rcases (queue_adopt s (s.verifier.start s.clock)).2 _ member with old | new
      · rw [unstarted.idle.queue] at old
        cases old
      · cases (opening.of_enqueue new).1
    traced := by
      rw [told]
      exact fun _ none => absurd none List.not_mem_nil
    waiting := by
      rw [told]
      exact fun _ => .nil
    ended := fun ended => absurd (live.symm.trans ended) Bool.false_ne_true
    idle := fun ended => absurd (live.symm.trans ended) Bool.false_ne_true }

end Verification

end TransferProof
