import TransferProof.Proofs.Classifier.Answers
import TransferProof.Proofs.Verification.Ending
import TransferProof.Proofs.Verification.Pace

/-!
# Answers and their polls

Every outcome that is delivered, but for the timeout, is the answer to a poll. It is what the end of
a genuine poll brings, and for each such outcome there is a poll of its own that was submitted
before.
-/

namespace TransferProof

open Verifier

/-- An outcome that a poll has brought: any but the timeout. -/
def Notice.isAnswer : Notice → Bool
  | .fault _ _ => false
  | .result outcome => outcome != overdueOutcome

def Callback.isPolled : Callback → Bool
  | .polled _ => true
  | _ => false

/-- The outcome that a poll leads to which ended like this, if it comes to that. -/
inductive PollResult.Brings : PollResult → Outcome → Prop where
  | answer (outcome : Outcome) : Brings (.ok (.outcome outcome)) outcome
  | failure (fault : Fault) (message : Text) :
      Brings (.error fault) (.error .connectionFailure (some message))

/-- Every outcome but the timeout is what the end of a poll brings. -/
theorem Verifier.Ruling.brings {v : Verifier} {now : Seconds} {fresh : Nat} {callback : Callback}
    {d : Decision} (ruling : Ruling v now fresh callback d) {outcome : Outcome}
    (told : .result outcome ∈ d.notices) (answer : outcome ≠ overdueOutcome) :
    ∃ result : PollResult, callback = .polled result ∧ result.Brings outcome := by
  cases ruling with
  | reopen opening =>
    rw [opening.notices_eq_nil] at told
    cases told
  | drop ended records => cases told
  | ignore live strange records => cases told
  | wait live tag timely next =>
    obtain rfl := Notice.result.inj (List.mem_singleton.mp told)
    exact ⟨_, rfl, .answer outcome⟩
  | conclude live ending records =>
    obtain rfl := ending.eq_of_told told
    cases ending with
    | final tag => exact ⟨_, rfl, .answer outcome⟩
    | lapsed tag overdue => exact absurd rfl answer
    | timeout => exact absurd rfl answer
    | fault words => exact ⟨_, rfl, .failure _ _⟩

/-- The end of a poll is put into the queue by the pool alone. -/
theorem Verifier.Opening.not_polled {v : Verifier} {now : Seconds} {d : Decision}
    (opening : Opening v now d) {next : Callback} (asks : .enqueue next ∈ d.effects) :
    next.isPolled = false := by
  obtain ⟨rfl, _⟩ := opening.of_enqueue asks
  rfl

theorem Verifier.Ruling.not_polled {v : Verifier} {now : Seconds} {fresh : Nat}
    {callback : Callback} {d : Decision} (ruling : Ruling v now fresh callback d)
    {next : Callback} (asks : .enqueue next ∈ d.effects) : next.isPolled = false :=
  (ruling.reopens asks rfl).2.not_polled asks

/-- Only the end of a poll brings an answer, and it brings one at most. -/
theorem Verifier.Ruling.answers_le {v : Verifier} {now : Seconds} {fresh : Nat}
    {callback : Callback} {d : Decision} (ruling : Ruling v now fresh callback d) :
    d.notices.countP Notice.isAnswer ≤ callback.isPolled.toNat := by
  cases ruling with
  | reopen opening =>
    rw [opening.notices_eq_nil]
    exact Nat.zero_le _
  | drop ended records => exact Nat.zero_le _
  | ignore live strange records => exact Nat.zero_le _
  | wait live tag timely next => exact List.countP_le_length
  | conclude live ending records =>
    cases ending with
    | final tag => exact List.countP_le_length
    | lapsed tag overdue => exact List.countP_le_length
    | timeout => exact Nat.zero_le _
    | fault words =>
      show List.countP Notice.isAnswer [Notice.fault _ _, Notice.result _] ≤ 1
      rw [List.countP_cons_of_neg Bool.false_ne_true]
      exact List.countP_le_length

namespace Verification

def answers (history : List Observation) : List Outcome :=
  (deliveries history).filter (· != overdueOutcome)

/-- For every answer that was or is still to be delivered there is a poll of its own, submitted
earlier. `due` answers are still to be told. -/
structure Matched (due : Nat) (s : Verification) : Prop where
  room : (answers s.history).length + due + s.tasks + s.queue.countP Callback.isPolled
    ≤ (readings s.history).length
  always : ∀ earlier, earlier <:+ s.history → (answers earlier).length ≤ (readings earlier).length

namespace Matched

variable {due : Nat} {s t : Verification}

theorem mono {less : Nat} (h : Matched due s) (le : less ≤ due) : Matched less s where
  room := by
    have room := h.room
    omega
  always := h.always

/-- One more observation that leaves room enough. -/
theorem grow {other : Nat} (h : Matched due s) {o : Observation}
    (grown : t.history = o :: s.history)
    (room : (answers t.history).length + other + t.tasks + t.queue.countP Callback.isPolled
      ≤ (readings t.history).length) : Matched other t where
  room := room
  always := by
    intro earlier before
    rw [grown] at room before
    rcases List.suffix_cons_iff.mp before with rfl | older
    · omega
    · exact h.always earlier older

theorem carryOut (h : Matched due s) {effect : Effect}
    (asks : ∀ callback, effect = .enqueue callback → callback.isPolled = false) :
    Matched due (s.carryOut effect).1 := by
  have room := h.room
  cases effect with
  | log record => exact h.grow rfl room
  | submit =>
    rw [Verification.carryOut]
    split
    · apply h.grow rfl
      show (answers s.history).length + due + (s.tasks + 1) + s.queue.countP Callback.isPolled
        ≤ (readings s.history).length + 1
      omega
    · exact h
  | enqueue callback =>
    refine ⟨?_, h.always⟩
    show (answers s.history).length + due + s.tasks
      + (s.queue ++ [callback]).countP Callback.isPolled ≤ (readings s.history).length
    have none : [callback].countP Callback.isPolled = 0 := by
      rw [List.countP_cons_of_neg (by rw [asks callback rfl]; exact Bool.false_ne_true)]
      rfl
    rw [List.countP_append, none]
    omega
  | arm timer => exact h.grow rfl room
  | cancel timer => exact h.grow rfl room

theorem adopt (h : Matched due s) {d : Decision}
    (asks : ∀ callback, .enqueue callback ∈ d.effects → callback.isPolled = false) :
    Matched due (s.adopt d).1 := by
  have decided : Matched due { s with verifier := d.verifier } := ⟨h.room, h.always⟩
  apply carryOutAll_keeps _ decided
  intro t effect among matched
  apply matched.carryOut
  rintro callback rfl
  exact asks callback among

/-- The end of a poll that is taken from the queue leaves an answer to be told. -/
theorem pop (h : Matched 0 s) {callback : Callback} {rest : List Callback}
    (queued : s.queue = callback :: rest) :
    Matched callback.isPolled.toNat { s with queue := rest } where
  room := by
    have room := h.room
    rw [queued] at room
    show (answers s.history).length + callback.isPolled.toNat + s.tasks
      + rest.countP Callback.isPolled ≤ (readings s.history).length
    cases polled : callback.isPolled with
    | true =>
      rw [List.countP_cons_of_pos polled] at room
      show (answers s.history).length + 1 + _ + _ ≤ _
      omega
    | false =>
      rw [List.countP_cons_of_neg (Bool.eq_false_iff.mp polled)] at room
      exact room
  always := h.always

theorem ruled (h : Matched 0 s) {callback : Callback} {rest : List Callback} {d : Decision}
    (queued : s.queue = callback :: rest)
    (ruling : Ruling s.verifier s.clock s.fresh callback d) :
    Matched (d.notices.countP Notice.isAnswer) ({ s with queue := rest }.adopt d).1 := by
  have decided := (h.pop queued).adopt fun other asks => ruling.not_polled asks
  exact decided.mono ruling.answers_le

theorem delivered {outcome : Outcome} {notices : List Notice}
    (h : Matched ((Notice.result outcome :: notices).countP Notice.isAnswer) s) :
    Matched (notices.countP Notice.isAnswer)
      ({ s with onResult := s.onResult.tail }.observe (.delivered outcome s.clock)) := by
  apply h.grow rfl
  have room := h.room
  show (List.filter (· != overdueOutcome) (outcome :: deliveries s.history)).length
    + notices.countP Notice.isAnswer + s.tasks + s.queue.countP Callback.isPolled
      ≤ (readings s.history).length
  by_cases answer : (outcome != overdueOutcome) = true
  · have counted : (Notice.result outcome).isAnswer = true := answer
    rw [List.countP_cons_of_pos counted] at room
    rw [List.filter_cons_of_pos (p := (· != overdueOutcome)) answer, List.length_cons]
    show (answers s.history).length + 1 + _ + _ + _ ≤ _
    omega
  · have passed : ¬ (Notice.result outcome).isAnswer = true := answer
    rw [List.countP_cons_of_neg passed] at room
    rw [List.filter_cons_of_neg (p := (· != overdueOutcome)) answer]
    exact room

theorem finish (h : Matched due s) (result : PollResult) : Matched due (s.finish result) := by
  rw [Verification.finish]
  split
  case isTrue => exact h
  case isFalse busy =>
    refine ⟨?_, h.always⟩
    have room := h.room
    show (answers s.history).length + due + (s.tasks - 1)
      + (s.queue ++ [Callback.polled result]).countP Callback.isPolled ≤ (readings s.history).length
    have one : [Callback.polled result].countP Callback.isPolled = 1 := rfl
    rw [List.countP_append, one]
    omega

theorem fire (h : Matched due s) (timer : Timer) : Matched due (s.fire timer) := by
  rw [Verification.fire]
  split
  · refine ⟨?_, h.always⟩
    show (answers s.history).length + due + s.tasks
      + (s.queue ++ [Callback.pollAgain]).countP Callback.isPolled ≤ (readings s.history).length
    rw [List.countP_append]
    exact h.room
  · exact h

end Matched

theorem lasting_matched : Lasting (fun _ => True) (fun _ => True) fun notices s =>
    Matched (notices.countP Notice.isAnswer) s where
  starts := fun _ => trivial
  opened := fun _ h opening => h.adopt fun _ asks => opening.not_polled asks
  terminated := by
    intro notices s h
    have stopped := h.adopt (d := s.verifier.terminate) ?_
    · rwa [adopt_terminate] at stopped
    · exact fun callback asks => nomatch isWork_of_terminate asks
  ticked := fun _ h => ⟨h.room, h.always⟩
  reported := fun h => h.grow rfl h.room
  delivered := Matched.delivered
  abandoned := fun h => h.mono (Nat.zero_le _)
  failed := fun _ h => h.grow rfl h.room
  ruled := fun h queued ruling => h.ruled queued ruling
  finished := fun _ h => h.finish _
  fired := fun timer h => h.fire timer
  closed := fun _ h => ⟨h.room, h.always⟩

/-- Only such results come from polls, and only such outcomes were or are to be delivered. -/
structure Relays (brings : PollResult → Prop) (tells : Outcome → Prop) (notices : List Notice)
    (s : Verification) : Prop where
  queued : ∀ result, .polled result ∈ s.queue → brings result
  delivered : ∀ outcome ∈ deliveries s.history, tells outcome
  told : ∀ outcome, .result outcome ∈ notices → tells outcome

/-- Where polls bring only such results only such outcomes are told. -/
def Conveys (brings : PollResult → Prop) (tells : Outcome → Prop) : Prop :=
  ∀ {v : Verifier} {now : Seconds} {fresh : Nat} {callback : Callback} {d : Decision},
    Ruling v now fresh callback d → (∀ result, callback = .polled result → brings result) →
    ∀ outcome, .result outcome ∈ d.notices → tells outcome

/-- Beside what polls bring a verifier tells of the timeout and of failed connections alone. -/
theorem conveys_of_brought {brings : PollResult → Prop} {tells : Outcome → Prop}
    (brought : ∀ outcome, brings (.ok (.outcome outcome)) → tells outcome)
    (overdue : tells overdueOutcome)
    (failed : ∀ message, message ≠ [] → tells (.error .connectionFailure (some message))) :
    Conveys brings tells := by
  intro v now fresh callback d ruling result outcome told
  cases ruling with
  | reopen opening =>
    rw [opening.notices_eq_nil] at told
    cases told
  | drop ended records => cases told
  | ignore live strange records => cases told
  | wait live tag timely next =>
    obtain rfl := Notice.result.inj (List.mem_singleton.mp told)
    exact brought outcome (result _ rfl)
  | conclude live ending records =>
    obtain rfl := ending.eq_of_told told
    cases ending with
    | final tag => exact brought outcome (result _ rfl)
    | lapsed tag late => exact overdue
    | timeout => exact overdue
    | fault words =>
      apply failed
      rw [words]
      exact List.cons_ne_nil _ _

namespace Relays

variable {brings : PollResult → Prop} {tells : Outcome → Prop} {notices later : List Notice}
  {s : Verification}

theorem adopt (h : Relays brings tells notices s) {d : Decision}
    (asks : ∀ callback, .enqueue callback ∈ d.effects → callback.isPolled = false)
    (told : ∀ outcome, .result outcome ∈ later → tells outcome) :
    Relays brings tells later (s.adopt d).1 where
  queued := by
    intro result member
    rcases (queue_adopt s d).2 _ member with old | new
    · exact h.queued result old
    · exact nomatch asks _ new
  delivered := by
    rw [deliveries_adopt]
    exact h.delivered
  told := told

theorem deliver {outcome : Outcome} (h : Relays brings tells (.result outcome :: notices) s) :
    Relays brings tells notices
      ({ s with onResult := s.onResult.tail }.observe (.delivered outcome s.clock)) where
  queued := h.queued
  delivered := by
    intro other member
    rcases List.mem_cons.mp member with rfl | before
    · exact h.told other List.mem_cons_self
    · exact h.delivered other before
  told := fun other member => h.told other (List.mem_cons_of_mem _ member)

theorem ruled (conveys : Conveys brings tells) (h : Relays brings tells [] s)
    {callback : Callback} {rest : List Callback} {d : Decision}
    (queued : s.queue = callback :: rest)
    (ruling : Ruling s.verifier s.clock s.fresh callback d) :
    Relays brings tells d.notices ({ s with queue := rest }.adopt d).1 := by
  have popped : Relays brings tells [] { s with queue := rest } := by
    refine ⟨fun result member => h.queued result ?_, h.delivered, h.told⟩
    rw [queued]
    exact List.mem_cons_of_mem _ member
  apply popped.adopt
  · exact fun other asks => ruling.not_polled asks
  · apply conveys ruling
    rintro result rfl
    apply h.queued
    rw [queued]
    exact List.mem_cons_self

end Relays

theorem lasting_relays {brings : PollResult → Prop} {tells : Outcome → Prop}
    (conveys : Conveys brings tells) :
    Lasting (fun _ => True) (fun event => ∀ result, event = .finish result → brings result)
      (Relays brings tells) where
  starts := fun _ => trivial
  opened := fun _ h opening => h.adopt (fun _ asks => opening.not_polled asks) h.told
  terminated := by
    intro notices s h
    have stopped := h.adopt (d := s.verifier.terminate)
      (fun callback asks => nomatch isWork_of_terminate asks) h.told
    rwa [adopt_terminate] at stopped
  ticked := fun _ h => { h with }
  reported := fun h =>
    ⟨h.queued, h.delivered, fun outcome member => h.told outcome (List.mem_cons_of_mem _ member)⟩
  delivered := Relays.deliver
  abandoned := fun h => ⟨h.queued, h.delivered, fun _ member => nomatch member⟩
  failed := fun _ h => { h with }
  ruled := fun h queued ruling => h.ruled conveys queued ruling
  finished := by
    intro s result genuine h
    rw [finish]
    split
    · exact h
    · refine { h with queued := ?_ }
      intro other member
      rcases List.mem_append.mp member with old | new
      · exact h.queued other old
      · obtain rfl := Callback.polled.inj (List.mem_singleton.mp new)
        exact genuine other rfl
  fired := by
    intro s timer h
    rw [fire]
    split
    · refine { h with queued := ?_ }
      intro result member
      rcases List.mem_append.mp member with old | new
      · exact h.queued result old
      · cases List.mem_singleton.mp new
    · exact h
  closed := fun _ h => { h with }

/-- In a run in which polls bring only such results only such outcomes are delivered. -/
theorem tells_of_mem_deliveries {brings : PollResult → Prop} {tells : Outcome → Prop}
    (conveys : Conveys brings tells) (request : Request) (clock : Seconds)
    (onResult onFault : List Reaction) {events : List Event}
    (brought : ∀ result, .finish result ∈ events → brings result) {outcome : Outcome}
    (delivered : outcome ∈
      deliveries ((ofRequest request clock onResult onFault).run events).history) :
    tells outcome := by
  have begun : Relays brings tells [] (ofRequest request clock onResult onFault) :=
    ⟨fun _ member => absurd member List.not_mem_nil,
      fun _ member => absurd member List.not_mem_nil,
      fun _ member => absurd member List.not_mem_nil⟩
  refine ((lasting_relays conveys).run ?_ (follows_any _) begun).2.delivered outcome delivered
  rintro event member result rfl
  exact brought result member

/-- In every run there are polls enough for the answers. -/
theorem matched_run (request : Request) (clock : Seconds) (onResult onFault : List Reaction)
    (events : List Event) : Matched 0 ((ofRequest request clock onResult onFault).run events) := by
  have begun : Matched 0 (ofRequest request clock onResult onFault) := by
    refine ⟨Nat.le_refl 0, ?_⟩
    intro earlier before
    obtain rfl := List.suffix_nil.mp before
    exact Nat.le_refl 0
  exact (lasting_matched.run (fun _ _ => trivial) (follows_any _) begun).2

structure Brought (request : Request) (s : Verification) : Prop where
  delivered : ∀ outcome ∈ answers s.history,
    ∃ result : PollResult, result.Genuine request ∧ result.Brings outcome

/-- In every run with genuine polls the answers are theirs. -/
theorem brought_run {request : Request} {events : List Event}
    (genuine : ∀ result, .finish result ∈ events → result.Genuine request) (clock : Seconds)
    (onResult onFault : List Reaction) :
    Brought request ((ofRequest request clock onResult onFault).run events) := by
  have conveys : Conveys (PollResult.Genuine request) fun outcome => outcome ≠ overdueOutcome →
      ∃ result : PollResult, result.Genuine request ∧ result.Brings outcome := by
    intro v now fresh callback d ruling brought outcome told answer
    obtain ⟨result, rfl, brings⟩ := ruling.brings told answer
    exact ⟨result, brought result rfl, brings⟩
  refine ⟨fun outcome member => ?_⟩
  obtain ⟨delivered, answer⟩ := List.mem_filter.mp member
  exact tells_of_mem_deliveries conveys request clock onResult onFault genuine delivered
    (bne_iff_ne.mp answer)

end Verification

end TransferProof
