import Mathlib.Data.List.Basic
import TransferProof.Proofs.Checker.Printing
import TransferProof.Proofs.Verification.Patience

/-!
# The verdict of the checker

A run of the checker that comes as far as the verification prints pending outcomes, at the end one
final outcome, and the verdict, which is the tag of the latter and decides the exit code. A note
about a fault is printed just before the final outcome if the way to the service was at fault, and
never otherwise. If that note cannot be written, which is up to the name of the trade, then the
outcome is not printed either, and the run waits for ever.
-/

namespace TransferProof

namespace Checker

open Verification Text

/-- The report of a run that has come to a verdict. -/
structure Judged (request : Request) (around : Surroundings) (report : Report) (outcome : Outcome) :
    Prop where
  ending : report.ending = .verdict outcome
  /-- The outcome is the one that is stored, and the handlers were told pending outcomes and a
  conclusion. Each of these was printed in full when it was told, and nothing else was. -/
  printed : ∃ r, report.rehearsal = some r
    ∧ r.verification.verifier.outcome = some outcome
    ∧ Tale outcome r.verification.told
    ∧ report.output = heading request ++ (r.since 0).flatMap (wholeLine around)
      ++ ("\n💡 Verdict: " ++ outcome.tag.name ++ "\n")
  success : report.ending.exitCode = 0 ↔ outcome.tag = .success
  failed : report.ending.exitCode = 1 ↔ outcome.tag = .failed
  error : report.ending.exitCode = 2 ↔ outcome.tag = .error

/-- The report of a run that the user has lost patience with, and not before the given time. -/
structure Interrupted (around : Surroundings) (report : Report) : Prop where
  ending : report.ending = .interrupted
  late : ∃ r time, report.rehearsal = some r ∧ around.interruptAt = some time
    ∧ time.le r.verification.clock = true

/-- The report of a run that waits for an outcome which nobody will be told, because a poll has
failed and the note about that cannot be written. -/
structure Stuck (request : Request) (around : Surroundings) (report : Report) : Prop where
  ending : report.ending = .waiting
  broken : ∃ r fault outcome, report.rehearsal = some r
    ∧ r.verification.verifier.outcome = some outcome
    ∧ BrokenOff request (habit around) fault outcome r.verification.told
    ∧ (¬ Writable request.tradeId ∨ ¬ Writable fault.name)
    ∧ report.output = heading request
      ++ ((r.since 0).filter fun o => (habit around o).isNone).flatMap (wholeLine around)

section Course

variable {request : Request} {around : Surroundings} {s : Verification} {outcome : Outcome}

/-- A failed poll is told last, by a note that could be written. -/
theorem writable_of_finished {notices : List Notice}
    (finished : Finished (habit around) outcome notices) {fault : Fault}
    (member : .result (Verifier.failure { request } fault) ∈ notices) :
    Writable (Verifier.failureText { request } fault) := by
  obtain ⟨⟨before, conclusion, inconclusive, concludes, rfl⟩, taken⟩ := finished
  rcases List.mem_append.mp member with old | new
  · obtain ⟨other, same, tag⟩ := inconclusive.tag_of_mem old
    obtain rfl := Notice.result.inj same
    cases tag
  · cases concludes with
    | answered final connected =>
      obtain rfl := Notice.result.inj (List.mem_singleton.mp new)
      cases connected
    | unconnected message cause =>
      have told := taken message cause (by simp)
      rw [habit_reported_iff] at told
      rcases List.mem_cons.mp new with impossible | last
      · cases impossible
      · have same := Notice.result.inj (List.mem_singleton.mp last)
        simp only [Verifier.failure, Outcome.error, Outcome.mk.injEq, Option.some.injEq,
          Detail.mk.injEq, true_and] at same
        rwa [same]

/-- Of a tale that is told to its end every line has been printed. -/
theorem habit_of_finished (course : Course request (habit around) s)
    (finished : Finished (habit around) outcome s.told) {o : Observation} (member : o ∈ s.history) :
    habit around o = none := by
  have told (notice : Notice) (seen : o.notice? = some notice) : notice ∈ s.told :=
    List.mem_reverse.mpr (List.mem_filterMap.mpr ⟨o, member, seen⟩)
  cases o with
  | delivered other time =>
    refine habit_delivered_of_traced (course.traced _ (told _ rfl)) (fun fault same => ?_) time
    subst same
    exact writable_of_finished finished (told _ rfl)
  | reported message cause => exact finished.taken message cause (told _ rfl)
  | _ => rfl

theorem isDone_iff (course : Course request (habit around) s) :
    isDone around s = true ↔
      ∃ outcome, s.verifier.outcome = some outcome ∧ Finished (habit around) outcome s.told := by
  rw [isDone, List.any_eq_true, ← course.isFinal_iff]
  constructor
  · rintro ⟨o, member, done⟩
    exact ⟨o, member, (Bool.and_eq_true_iff.mp done).1⟩
  · intro final
    obtain ⟨outcome, -, finished⟩ := course.isFinal_iff.mp final
    obtain ⟨o, member, final⟩ := final
    refine ⟨o, member, ?_⟩
    rw [final, habit_of_finished course finished member]
    rfl

end Course

section Waiting

variable {request : Request} {around : Surroundings} {r : Rehearsal}

theorem exitCode_verdict {outcome : Outcome} {notices : List Notice}
    (tale : Tale outcome notices) :
    ((Ending.verdict outcome).exitCode = 0 ↔ outcome.tag = .success)
      ∧ ((Ending.verdict outcome).exitCode = 1 ↔ outcome.tag = .failed)
      ∧ ((Ending.verdict outcome).exitCode = 2 ↔ outcome.tag = .error) := by
  obtain ⟨_, _, _, conclusion, _⟩ := tale
  rcases conclusion.final with tag | tag | tag <;> simp [Ending.exitCode, tag]

theorem isInterrupted_iff : isInterrupted around r = true ↔
    ∃ time, around.interruptAt = some time ∧ time.le r.verification.clock = true := by
  rw [isInterrupted]
  cases around.interruptAt <;> simp

/-- What a wait has come to: it goes on, or the time to be interrupted has come, or all has been
told. -/
inductive Waited (request : Request) (around : Surroundings) : Ending × Rehearsal → Prop where
  | goesOn (r : Rehearsal) : Waited request around (.waiting, r)
  | interrupted {r : Rehearsal} {time : Seconds} (set : around.interruptAt = some time)
      (late : time.le r.verification.clock = true) : Waited request around (.interrupted, r)
  | done {r : Rehearsal} {outcome : Outcome} (course : Course request (habit around) r.verification)
      (stored : r.verification.verifier.outcome = some outcome)
      (finished : Finished (habit around) outcome r.verification.told) :
      Waited request around (.verdict outcome, r)

theorem waited_wait (faithful : Rehearsal.Faithful request (habit around) r) (n : Nat) :
    Waited request around (wait around n r) := by
  induction n generalizing r with
  | zero => exact .goesOn r
  | succ n ih =>
    have drained := faithful.drain
    rw [wait]
    split
    case isTrue done =>
      obtain ⟨outcome, stored, finished⟩ := (isDone_iff drained.course).mp done
      rw [verdict, stored]
      exact .done drained.course stored finished
    case isFalse =>
      split
      case isTrue late =>
        obtain ⟨time, set, late⟩ := isInterrupted_iff.mp late
        refine .interrupted set ?_
        rwa [terminate_eq, callOff_clock]
      case isFalse => exact ih (drained.act_advance 1)

/-- One second of a wait when no callback is left. -/
theorem wait_succ (nothing : r.verification.queue = []) (n : Nat) :
    wait around (n + 1) r =
      if isDone around r.verification then (verdict r, r)
      else if isInterrupted around r then
        (.interrupted, { r with verification := r.verification.terminate })
      else wait around n (r.act (.advance 1)).1 := by
  rw [wait, Rehearsal.drain, Rehearsal.drainWithin_of_nil nothing]

/-- Where nothing is under way a wait changes nothing but the clock. -/
theorem wait_of_idle (idle : Idle r.verification) (n : Nat)
    (goesOn : (wait around n r).1 = .waiting) :
    ∃ time, (wait around n r).2 = { r with verification := r.verification.tick time } := by
  induction n generalizing r with
  | zero => exact ⟨r.verification.clock, rfl⟩
  | succ n ih =>
    rw [wait_succ idle.queue] at goesOn ⊢
    split at goesOn
    case isTrue done =>
      rw [if_pos done]
      exact ⟨r.verification.clock, rfl⟩
    case isFalse undone =>
      rw [if_neg undone]
      split at goesOn
      case isTrue => cases goesOn
      case isFalse unhurried =>
        rw [if_neg unhurried]
        obtain ⟨time, passed⟩ := Rehearsal.act_advance_of_idle idle 1
        rw [passed] at goesOn ⊢
        exact ih (idle.congr rfl rfl rfl rfl) goesOn

/-- Second by second the wait comes nearer to the last moment at which a timer can be due. Then it
goes on only if the tale was broken off. -/
theorem wait_of_resting (first : request.firstRequest = .exact 0) {now : Rat}
    (resting : Rehearsal.Resting request (habit around) now r) {n : Nat} (positive : 0 < n)
    (enough : 43291 ≤ n + now) (goesOn : (wait around n r).1 = .waiting) :
    ∃ fault outcome, (wait around n r).2.verification.verifier.outcome = some outcome
      ∧ BrokenOff request (habit around) fault outcome (wait around n r).2.verification.told := by
  induction n generalizing r now with
  | zero => cases positive
  | succ n ih =>
    have course := resting.prompt.faithful.course
    have undone : ¬ isDone around r.verification = true := by
      intro done
      obtain ⟨outcome, stored, -⟩ := (isDone_iff course).mp done
      rw [wait_succ resting.queue, if_pos done, verdict, stored] at goesOn
      cases goesOn
    -- While the verifier is live a timer is due, which bounds the time, so a second is left. Once it
    -- has ended nothing is under way, and the tale was broken off, since it was not told to its end.
    cases live : r.verification.verifier.terminated with
    | false =>
      obtain ⟨_, due, -, -, soon, bound⟩ := resting.lt_of_live live
      obtain ⟨later, passed, rests⟩ := resting.advance first live
      rw [wait_succ resting.queue, if_neg undone] at goesOn ⊢
      split at goesOn
      case isTrue => cases goesOn
      case isFalse unhurried =>
        rw [if_neg unhurried]
        push_cast at enough
        have left : (0 : Rat) < n := by linarith
        exact ih rests (by exact_mod_cast left) (by linarith) goesOn
    | true =>
      obtain ⟨outcome, stored, finished | ⟨fault, broken⟩⟩ := course.ended live
      · exact absurd ((isDone_iff course).mpr ⟨outcome, stored, finished⟩) undone
      · obtain ⟨time, same⟩ := wait_of_idle (course.idle live) (n + 1) goesOn
        rw [same]
        exact ⟨fault, outcome, stored, broken⟩

/-- What a run comes to that verifies a request. -/
theorem ends_verifyWithin (faithful : Rehearsal.Faithful request (habit around)
      ((attended around r).act .start).1) (patience : Nat) :
    (verifyWithin patience request around r).ending = .waiting
      ∨ Interrupted around (verifyWithin patience request around r)
      ∨ ∃ outcome, Judged request around (verifyWithin patience request around r) outcome := by
  have waited := waited_wait faithful patience
  rw [verifyWithin]
  generalize wait around patience ((attended around r).act .start).1 = last at waited ⊢
  cases waited with
  | goesOn r => exact .inl rfl
  | interrupted set late => exact .inr (.inl ⟨rfl, _, _, rfl, set, late⟩)
  | @done r outcome course stored finished =>
    obtain ⟨success, failed, error⟩ := exitCode_verdict finished.tale
    have every : (r.since 0).filter (fun o => (habit around o).isNone) = r.since 0 := by
      refine List.filter_eq_self.mpr fun o member => ?_
      rw [habit_of_finished course finished (List.mem_of_mem_take (List.mem_reverse.mp member))]
      rfl
    refine .inr (.inr ⟨outcome, rfl, ⟨r, rfl, stored, finished.tale, ?_⟩, success, failed, error⟩)
    dsimp only
    rw [flatMap_printed, every]
    rfl

theorem ending_verifyWithin (patience : Nat) (request : Request) (around : Surroundings)
    (r : Rehearsal) : (verifyWithin patience request around r).ending =
      (wait around patience ((attended around r).act .start).1).1 := by
  rw [verifyWithin]

/-- A run is stuck if its wait goes on after the tale was broken off, and the address of the service
is not what the note could not be written for. -/
theorem stuck_verifyWithin {patience : Nat} {fault : Fault} {outcome : Outcome}
    (goesOn : (wait around patience ((attended around r).act .start).1).1 = .waiting)
    (stored : (wait around patience
      ((attended around r).act .start).1).2.verification.verifier.outcome = some outcome)
    (broken : BrokenOff request (habit around) fault outcome
      (wait around patience ((attended around r).act .start).1).2.verification.told)
    (service : Writable request.serviceAddress) :
    Stuck request around (verifyWithin patience request around r) := by
  rw [verifyWithin]
  generalize wait around patience ((attended around r).act .start).1 = last
    at goesOn stored broken ⊢
  obtain ⟨ending, last⟩ := last
  obtain rfl : ending = .waiting := goesOn
  have unwritable := broken.failed
  rw [ne_eq, habit_reported_iff, Verifier.writable_failureText_iff] at unwritable
  refine ⟨rfl, last, fault, outcome, rfl, stored, broken,
    not_and_or.mp fun both => unwritable ⟨service, both⟩, ?_⟩
  rw [← flatMap_printed]
  exact List.append_nil _

end Waiting

section Whole

def Begins (line : List Text) (around : Surroundings) (request : Request) (r : Rehearsal) : Prop :=
  ∃ order settings, CommandLine.read line = .ok (.check order)
    ∧ Settings.load around.environment = .ok settings
    ∧ requestOf order settings around = .ok request
    ∧ Rehearsal.ofRequest request 0 [] []
      (some (.ok (if order.noProxy then none else settings.socksProxy))) settings.userAgent
      around.replies = .ok r
    ∧ ∀ line ∈ headingLines request, Writable line

variable {line : List Text} {around : Surroundings} {request : Request} {r : Rehearsal}

/-- How far the check of an order comes, and what is reported of it. -/
inductive Checked (order : CommandLine.Order) (around : Surroundings) : Report → Prop where
  | unset {fault : IntegerFault} (refused : Settings.load around.environment = .error fault) :
      Checked order around { ending := .crash (.settings fault) }
  | unasked {settings : Settings} {ending : Ending}
      (loaded : Settings.load around.environment = .ok settings)
      (refused : requestOf order settings around = .error ending) :
      Checked order around { ending := ending }
  | unmade {settings : Settings} {request : Request} {fault : Authority.Fault}
      (loaded : Settings.load around.environment = .ok settings)
      (asked : requestOf order settings around = .ok request)
      (refused : Rehearsal.ofRequest request 0 [] []
        (some (.ok (if order.noProxy then none else settings.socksProxy))) settings.userAgent
        around.replies = .error fault) :
      Checked order around { ending := .crash (.service fault), request := some request }
  | unprinted {settings : Settings} {request : Request} {r : Rehearsal} {surrogates : Surrogates}
      (loaded : Settings.load around.environment = .ok settings)
      (asked : requestOf order settings around = .ok request)
      (made : Rehearsal.ofRequest request 0 [] []
        (some (.ok (if order.noProxy then none else settings.socksProxy))) settings.userAgent
        around.replies = .ok r)
      (stopped : (printLines (headingLines request)).2 = some surrogates) :
      Checked order around
        { ending := .crash (.output surrogates), request := some request,
          output := (printLines (headingLines request)).1 }
  | verified {settings : Settings} {request : Request} {r : Rehearsal}
      (loaded : Settings.load around.environment = .ok settings)
      (asked : requestOf order settings around = .ok request)
      (made : Rehearsal.ofRequest request 0 [] []
        (some (.ok (if order.noProxy then none else settings.socksProxy))) settings.userAgent
        around.replies = .ok r)
      (writable : ∀ line ∈ headingLines request, Writable line) :
      Checked order around (verify request around r)

theorem checked_check (order : CommandLine.Order) (around : Surroundings) :
    Checked order around (check order around) := by
  rw [check]
  cases loaded : Settings.load around.environment with
  | error fault => exact .unset loaded
  | ok settings =>
    dsimp only
    cases asked : requestOf order settings around with
    | error ending => exact .unasked loaded asked
    | ok request =>
      dsimp only
      cases made : Rehearsal.ofRequest request 0 [] []
          (some (.ok (if order.noProxy then none else settings.socksProxy))) settings.userAgent
          around.replies with
      | error fault => exact .unmade loaded asked made
      | ok r =>
        dsimp only
        cases stopped : (printLines (headingLines request)).2 with
        | some surrogates =>
          rw [← Prod.eta (printLines (headingLines request)), stopped]
          exact .unprinted loaded asked made stopped
        | none =>
          have writable := printLines_snd_eq_none_iff.mp stopped
          rw [printLines_of_writable writable]
          exact .verified loaded asked made writable

/-- A run that comes as far as that goes on with it. -/
theorem Begins.run_eq (begins : Begins line around request r) :
    ∃ level, run line around =
      { verifyWithin (patience r) request around r with logLevel := level } := by
  obtain ⟨order, settings, read, loaded, asked, made, writable⟩ := begins
  refine ⟨some (if order.verbose then .info else .warning), ?_⟩
  rw [run, read]
  dsimp only
  rw [check, loaded]
  dsimp only
  rw [asked]
  dsimp only
  rw [made]
  dsimp only
  rw [printLines_of_writable writable, verify]

/-- Only such a run has a rehearsal to show. -/
theorem begins_of_rehearsal {last : Rehearsal} (shown : (run line around).rehearsal = some last) :
    ∃ request r, Begins line around request r := by
  rw [run] at shown
  split at shown
  · cases shown
  · cases shown
  · next order read =>
    have checked := checked_check order around
    dsimp only at shown
    generalize check order around = report at checked shown
    cases checked with
    | @verified settings request r loaded asked made writable =>
      exact ⟨request, r, order, settings, read, loaded, asked, made, writable⟩
    | _ => cases shown

theorem Begins.faithful (begins : Begins line around request r) :
    Rehearsal.Faithful request (habit around) ((attended around r).act .start).1 := by
  obtain ⟨order, settings, _, _, _, made, _⟩ := begins
  obtain ⟨classifier, unstarted⟩ := Rehearsal.unstarted_ofRequest made
  exact Rehearsal.faithful_start (r := attended around r) classifier rfl unstarted

/-- The texts of a request that the command line or a setting gives, and its beginning. -/
theorem given_of_requestOf {order : CommandLine.Order} {settings : Settings}
    (asked : requestOf order settings around = .ok request) :
    request.txHash = order.txHash ∧ request.recipientAddress = order.address
      ∧ request.serviceAddress = orElse order.service settings.serviceAddress
      ∧ request.firstRequest = .exact 0 := by
  rw [requestOf] at asked
  split at asked
  · cases asked
  · dsimp only at asked
    split at asked
    · cases asked
    · obtain rfl := Except.ok.inj asked
      exact ⟨rfl, rfl, rfl, rfl⟩

/-- The wait is long enough for replies that take exact times and do not set the clock back. If it
goes on nevertheless, then because the note about a failed poll cannot be written. -/
theorem Begins.stuck (begins : Begins line around request r)
    (forward : ∀ reply ∈ around.replies, reply.Forward)
    (goesOn : (verifyWithin (patience r) request around r).ending = .waiting) :
    Stuck request around (verifyWithin (patience r) request around r) := by
  obtain ⟨order, settings, -, -, asked, made, heading⟩ := begins
  have first := (given_of_requestOf asked).2.2.2
  have smooth : Rehearsal.Smooth 0 r := Rehearsal.smooth_ofRequest forward made
  obtain ⟨classifier, unstarted⟩ := Rehearsal.unstarted_ofRequest made
  obtain ⟨now, since, settled⟩ := Rehearsal.settled_start (r := attended around r) first
    ⟨smooth.unpaused, smooth.held, smooth.automatic, smooth.forward, smooth.clock⟩ classifier rfl
    unstarted
  have rounds := Rehearsal.pollsWithin_ge smooth.forward
  have enough : (43291 : Rat) ≤ (patience r : Nat) := by
    rw [patience]
    have whole : 43291 ≤ 91 * r.pollsWithin Verifier.requestPeriod := by omega
    exact_mod_cast whole
  have positive : 0 < patience r := by
    rw [patience]
    omega
  rw [ending_verifyWithin] at goesOn
  obtain ⟨fault, outcome, stored, broken⟩ :=
    wait_of_resting first settled.resting positive (by linarith) goesOn
  exact stuck_verifyWithin goesOn stored broken (writable_headingLines_iff.mp heading).2.2

/-- A command line, and a service that is down when it is asked. -/
def outage : List Text × Surroundings :=
  (["5c", "49", "d0", "--amount", "1"],
    { now := .zero false, freshId := "7", replies := [⟨.response 503 (some "Down") [], 0⟩] })

end Whole

end Checker

end TransferProof
