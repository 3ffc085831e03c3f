import TransferProof.Proofs.Verification.Answered
import TransferProof.Proofs.Verification.Reading

/-!
# The timeout

What becomes of a verification whose time is up. Polls are made only while a reading of the clock
is not late. The first late reading brings the timeout on its way, which is delivered once unless
the verifier ends before, and every other outcome that is ever delivered is the answer to one of
the polls.
-/

namespace TransferProof.Verification

open Verifier

/-- The law of the timeout, about the state that a run has come to in which the clock was read like
this. -/
structure TimeoutLaw (request : Request) (looked : List Seconds) (s : Verification) : Prop where
  asked : s.verifier.request = request
  polled : ∀ reading, .submitted reading ∈ s.history → ¬ Late request.firstRequest reading
  /-- As long as it is not too late every start leads to a poll. -/
  polls : s.verifier.terminated = false → s.poolOpen = true →
    ¬ Late request.firstRequest s.clock → s.start.1.history = .submitted s.clock :: s.history
      ∧ (s.queue.head? = some .pollAgain → s.runNext.history = .submitted s.clock :: s.history)
  waits : ∀ outcome time, .delivered outcome time ∈ s.history → outcome.isTerminal = false →
    ¬ Late request.firstRequest time
  once : (deliveries s.history).count overdueOutcome ≤ 1
  lapsed : overdueOutcome ∈ deliveries s.history →
    ∃ reading ∈ looked, Late request.firstRequest reading
  /-- The verifier has ended before the handler is called. -/
  ended : ∀ callback rest, s.queue = callback :: rest →
    .result overdueOutcome ∈ (s.verifier.run s.clock s.fresh callback).notices →
      ({ s with queue := rest }.adopt
        (s.verifier.run s.clock s.fresh callback)).1.verifier.terminated = true
  /-- From the first late reading on the callback that gives up is waiting until the verifier has
  ended. -/
  doomed : (∃ reading ∈ looked, Late request.firstRequest reading) →
    s.verifier.terminated = true ∨ .giveUp ∈ s.queue
  /-- It waits for those callbacks only that are before it. -/
  settles : .giveUp ∈ s.queue → ∀ later, s.queue.length ≤ later.countP Event.isRunNext →
    (s.run later).verifier.terminated = true
  /-- The timeout is delivered when its turn has come, and at once if a pending outcome comes too
  late. -/
  delivers : s.verifier.terminated = false → ∀ callback, s.queue.head? = some callback →
    (callback = .giveUp ∨ ∃ outcome, callback = .polled (.ok (.outcome outcome))
      ∧ outcome.tag = .pending ∧ Late request.firstRequest s.clock) →
    s.runNext.verifier.terminated = true
      ∧ deliveries s.runNext.history = overdueOutcome :: deliveries s.history
  /-- At no time were there more answers than polls, and those were in time. -/
  matched : ∀ earlier, earlier <:+ s.history →
    (answers earlier).length ≤ (readings earlier).length
  brought : ∀ outcome ∈ answers s.history,
    ∃ result : PollResult, result.Genuine request ∧ result.Brings outcome

/-- A final outcome is counted among the deliveries of final ones. -/
theorem count_deliveries_le {outcome : Outcome} (terminal : outcome.isTerminal = true)
    (history : List Observation) :
    (deliveries history).count outcome ≤ history.countP Observation.isFinal := by
  induction history with
  | nil => exact Nat.le_refl 0
  | cons o earlier ih =>
    cases o with
    | delivered other time =>
      show (other :: deliveries earlier).count outcome ≤ _
      by_cases same : other = outcome
      · subst same
        have final : (Observation.delivered other time).isFinal = true := terminal
        rw [List.count_cons_self, List.countP_cons_of_pos final]
        omega
      · rw [List.count_cons_of_ne same, List.countP_cons]
        exact ih.trans (Nat.le_add_right _ _)
    | _ => exact ih

/-- The timeout is delivered by the callback that is the end for want of time. -/
theorem ended_timeout {s : Verification} {callback : Callback} {rest : List Callback}
    (queued : s.queue = callback :: rest) {records : List LogRecord}
    (decided : s.verifier.run s.clock s.fresh callback =
      s.verifier.conclude overdueOutcome (records.map .log)) :
    Ended overdueOutcome (overdueOutcome :: deliveries s.history) s.runNext := by
  obtain ⟨t, ran, concluded, _⟩ := runNext_of_conclude queued decided
  rw [ran]
  exact concluded.tellAll_result

/-- A start in time is a poll. -/
theorem submits_of_timely {s : Verification} (live : s.verifier.terminated = false)
    (poolOpen : s.poolOpen = true) (timely : s.verifier.isOverdue s.clock = false) :
    s.start.1.history = .submitted s.clock :: s.history
      ∧ (s.queue.head? = some .pollAgain →
        s.runNext.history = .submitted s.clock :: s.history) := by
  have decided := start_of_timely live timely
  constructor
  · rw [start_eq, decided, adopt_submit poolOpen]
    rfl
  · intro next
    obtain ⟨rest, queued⟩ := List.head?_eq_some_iff.mp next
    have adopted := adopt_submit (s := { s with queue := rest }) poolOpen s.verifier
    rw [runNext_eq queued, Verifier.run, decided, enact_of_adopt adopted]
    rfl

/-- Whatever happens, in whatever order and at whatever times, the law holds. The polls have to be
genuine: the timeout is no answer of the service. -/
theorem timeoutLaw_run (request : Request) (clock : Seconds) (onResult onFault : List Reaction)
    {events : List Event}
    (genuine : ∀ result, .finish result ∈ events → result.Genuine request) :
    TimeoutLaw request ((ofRequest request clock onResult onFault).looksAlong events)
      ((ofRequest request clock onResult onFault).run events) := by
  have watch := watch_run genuine clock onResult onFault
  have inTime := inTime_run request clock onResult onFault events
  have reached : Reached ((ofRequest request clock onResult onFault).run events) :=
    ⟨request, clock, onResult, onFault, events, rfl⟩
  have matched := matched_run request clock onResult onFault events
  have brought := brought_run genuine clock onResult onFault
  generalize (ofRequest request clock onResult onFault).run events = s at *
  constructor
  case asked => exact inTime.asked
  case polled => exact fun reading submitted => inTime.happened _ submitted
  case polls =>
    intro live poolOpen timely
    apply submits_of_timely live poolOpen
    rw [Bool.eq_false_iff, ne_eq, isOverdue_iff, inTime.asked]
    exact timely
  case waits => exact fun outcome time delivered => inTime.happened _ delivered
  case once => exact (count_deliveries_le rfl _).trans reached.orderly.countP_le_one
  case lapsed =>
    intro delivered
    by_contra timely
    apply (watch.early ?_).undelivered delivered
    exact fun reading looked late => timely ⟨reading, looked, late⟩
  case ended =>
    intro callback rest queued told
    rw [adopt_verifier]
    exact ((ruling_run _ _ _ callback).of_overdueOutcome told).1
  case doomed =>
    intro late
    obtain ⟨n, ended | waiting⟩ := watch.late late
    · exact Or.inl ended
    · exact Or.inr (List.mem_of_mem_take waiting)
  case settles =>
    intro waiting later enough
    have settled := (EndsWithin.of_queued waiting).run later
    rw [Nat.sub_eq_zero_of_le enough] at settled
    exact settled.resolve_right List.not_mem_nil
  case delivers =>
    intro live callback next due
    obtain ⟨rest, queued⟩ := List.head?_eq_some_iff.mp next
    have ended : Ended overdueOutcome (overdueOutcome :: deliveries s.history) s.runNext := by
      rcases due with rfl | ⟨outcome, rfl, pending, late⟩
      · obtain ⟨records, decided⟩ := giveUp_of_live live
        exact ended_timeout queued decided
      · rw [← inTime.asked, ← isOverdue_iff] at late
        obtain ⟨records, decided⟩ := run_of_lapsed live pending late s.fresh
        exact ended_timeout queued decided
    exact ⟨ended.ended, ended.told⟩
  case matched => exact matched.always
  case brought => exact brought.delivered

section Overslept

def unseeing (_ : Call) : Reply := .response 200 none "\x7b\"status\": \"fail\", \"data\": 0\x7d"

def unseenYet : PollResult :=
  Poll.run (small []).verifier {} none "agent" unseeing (.standard (small []).verifier.request)

theorem genuine_unseenYet : unseenYet.Genuine (small []).verifier.request := by
  refine ⟨(small []).verifier, {}, none, "agent", unseeing, rfl, ?_⟩
  rw [unseenYet]

/-- One poll, and then the clock goes on for half a day. -/
def overslept : List Event :=
  [.start, .finish unseenYet, .runNext, .tick 43206, .fire ⟨0, 95⟩, .runNext, .runNext]

theorem timeoutLaw_run_overslept :
    (small []).looksAlong overslept = [5, 5, 43206]
      ∧ deliveries ((small []).run overslept).history =
        [overdueOutcome, .pending (.ofKind .txNotFound)]
      ∧ ∃ reading ∈ (small []).looksAlong overslept, Late 0 reading := by
  have genuine : ∀ result, .finish result ∈ overslept →
      result.Genuine (small []).verifier.request := by
    intro result member
    simp only [overslept, List.mem_cons, reduceCtorEq, false_or, Event.finish.injEq,
      List.not_mem_nil, or_false] at member
    rw [member]
    exact genuine_unseenYet
  have law := timeoutLaw_run (small []).verifier.request 5 [] [] genuine
  have delivered : deliveries ((small []).run overslept).history =
      [overdueOutcome, .pending (.ofKind .txNotFound)] := by decide +kernel
  refine ⟨by decide +kernel, delivered, law.lapsed ?_⟩
  show overdueOutcome ∈ deliveries ((small []).run overslept).history
  rw [delivered]
  exact List.mem_cons_self

/-- A first request a little less than one second after the beginning of time. -/
def almostOne : Request :=
  { (small []).verifier.request with
    firstRequest := .floating (.finite false 9007199254740991 (-53)) }

/-- The time from there to a whole second is rounded, and so a poll is made after more than twelve
hours. -/
theorem late_poll_of_rounding :
    ∃ first : Rat, almostOne.firstRequest.toRat? = some first ∧ first + 43200 < 43201
      ∧ readings ((ofRequest almostOne (.exact 43201) [] []).run [.start]).history =
        [.exact 43201] := by
  exact ⟨9007199254740991 / 9007199254740992, by decide +kernel, by norm_num, by decide +kernel⟩

end Overslept

end TransferProof.Verification
