import Mathlib.Data.List.Infix
import TransferProof.Proofs.Classifier.Answers
import TransferProof.Proofs.Verification.Deadline
import TransferProof.Proofs.Verification.Ending

/-!
# Readings of the clock

A verifier that has not ended looks at its clock when it is started and when it takes a pending
outcome. As long as no reading is late no timeout is on its way, and after a late one the verifier
has ended or the callback that ends it is waiting. A handler may start the verifier that called it,
between moves that take time, so the readings are followed into the handlers.
-/

namespace TransferProof

open Verifier

/-- A verifier that has not ended looks at its clock when it runs the callback. -/
def Callback.readsClock : Callback → Bool
  | .polled (.ok (.outcome outcome)) => outcome.tag == .pending
  | .pollAgain => true
  | _ => false

/-- A callback that can bring the timeout even if it is not too late. -/
inductive Callback.BringsTimeout : Callback → Prop where
  | giveUp : BringsTimeout .giveUp
  | polled : BringsTimeout (.polled (.ok (.outcome overdueOutcome)))

/-- Where no reading is due the time does not matter. -/
theorem Verifier.run_eq_of_blind {v : Verifier} {callback : Callback}
    (blind : v.terminated = true ∨ callback.readsClock = false) (now other : Seconds)
    (fresh : Nat) : v.run now fresh callback = v.run other fresh callback := by
  cases callback with
  | giveUp => rfl
  | pollAgain =>
    have ended : v.terminated = true := blind.resolve_right (by decide)
    rw [run, run, start, start, if_pos ended, if_pos ended]
  | polled result =>
    rcases result with fault | outcome | shown
    · rfl
    · rw [run, run, polled, polled, accept, accept]
      rcases blind with ended | blind
      · rw [if_pos ended, if_pos ended]
      · have final : outcome.tag ≠ .pending := by simpa [Callback.readsClock] using blind
        cases tag : outcome.tag with
        | pending => exact absurd tag final
        | _ => rfl
    · rfl

namespace Verification

/-- The reading, if one is due: a verifier that has ended does not look. -/
def look (s : Verification) (due : Bool) : List Seconds :=
  if due && !s.verifier.terminated then [s.clock] else []

def looksOfMoves (s : Verification) : List Move → List Seconds
  | [] => []
  | m :: rest =>
    s.look (m == .start) ++
      match s.move m with
      | (t, none) => t.looksOfMoves rest
      | (_, some _) => []

def looksOfNotices (s : Verification) : List Notice → List Seconds
  | [] => []
  | notice :: rest =>
    (s.upon notice).looksOfMoves (s.reaction notice).moves ++
      match s.tell notice with
      | (t, none) => t.looksOfNotices rest
      | (_, some _) => []

def looks (s : Verification) : Event → List Seconds
  | .start => s.look true
  | .runNext =>
    match s.queue with
    | [] => []
    | callback :: rest =>
      let d := s.verifier.run s.clock s.fresh callback
      s.look callback.readsClock ++
        match { s with queue := rest }.adopt d with
        | (t, none) => t.looksOfNotices d.notices
        | (_, some _) => []
  | .terminate | .finish _ | .fire _ | .tick _ | .closePool => []

def looksAlong (s : Verification) : List Event → List Seconds
  | [] => []
  | event :: rest => s.looks event ++ (s.step event).looksAlong rest

theorem mem_look {s : Verification} {due : Bool} {reading : Seconds} :
    reading ∈ s.look due ↔ due = true ∧ s.verifier.terminated = false ∧ reading = s.clock := by
  rw [look]
  cases due <;> cases s.verifier.terminated <;> simp

section Lapse

/-- The verifier has ended, or one of the next `n` callbacks ends it. -/
def EndsWithin (n : Nat) (s : Verification) : Prop :=
  s.verifier.terminated = true ∨ .giveUp ∈ s.queue.take n

variable {n : Nat} {s t : Verification}

theorem EndsWithin.of_queued (waiting : .giveUp ∈ s.queue) : EndsWithin s.queue.length s :=
  Or.inr (by rwa [List.take_length])

theorem EndsWithin.mono {m : Nat} (ends : EndsWithin n s) (le : n ≤ m) : EndsWithin m s :=
  ends.imp id fun waiting => (List.take_prefix_take_left le).subset waiting

/-- Callbacks that come later do not delay it. -/
theorem EndsWithin.grow (ends : EndsWithin n s)
    (ended : s.verifier.terminated = true → t.verifier.terminated = true)
    (grown : s.queue <+: t.queue) : EndsWithin n t :=
  ends.imp ended fun waiting => (grown.take n).subset waiting

theorem EndsWithin.opened (ends : EndsWithin n s) {d : Decision}
    (opening : Opening s.verifier s.clock d) : EndsWithin n (s.adopt d).1 := by
  refine ends.grow ?_ (queue_adopt s d).1
  rw [adopt_verifier, opening.verifier_eq]
  exact id

/-- One callback fewer has to be run before the end. -/
theorem EndsWithin.ruled (ends : EndsWithin n s) {callback : Callback} {rest : List Callback}
    {d : Decision} (queued : s.queue = callback :: rest)
    (ruling : Ruling s.verifier s.clock s.fresh callback d) :
    EndsWithin (n - 1) ({ s with queue := rest }.adopt d).1 := by
  rcases ends with ended | waiting
  · exact Or.inl (silent_ruling ended ruling).1.ended
  · cases n with
    | zero => cases waiting
    | succ n =>
      rw [queued, List.take_succ_cons] at waiting
      rcases List.mem_cons.mp waiting with rfl | later
      · refine Or.inl ?_
        rw [adopt_verifier]
        exact ruling.ended_of_giveUp
      · exact Or.inr (((queue_adopt { s with queue := rest } d).1.take n).subset later)

theorem lasting_endsWithin (n : Nat) :
    Lasting (fun _ => True) (fun _ => True) fun _ s => EndsWithin n s where
  starts := fun _ => trivial
  opened := fun _ ends opening => ends.opened opening
  terminated := fun _ => Or.inl (by rw [callOff_verifier]; rfl)
  ticked := fun _ => id
  reported := id
  delivered := id
  abandoned := id
  failed := fun _ => id
  ruled := fun ends queued ruling => (ends.ruled queued ruling).mono (Nat.sub_le _ _)
  finished := by
    intro s result _ ends
    rw [finish]
    split
    · exact ends
    · exact ends.grow id (List.prefix_append _ _)
  fired := by
    intro s timer ends
    rw [fire]
    split
    · exact ends.grow id (List.prefix_append _ _)
    · exact ends
  closed := fun _ => id

theorem EndsWithin.runNext (ends : EndsWithin n s) : EndsWithin (n - 1) s.runNext := by
  cases queued : s.queue with
  | nil =>
    rw [Verification.runNext, queued]
    refine ends.imp id fun waiting => ?_
    rw [queued, List.take_nil] at waiting
    cases waiting
  | cons callback rest =>
    have ruling := ruling_run s.verifier s.clock s.fresh callback
    have endures := (lasting_endsWithin (n - 1)).enduring
    rw [runNext_eq queued]
    exact (endures.noting (endures.enact (s := { s with queue := rest })
      (fun _ => ruling.tail_final) (follows_any _) (ends.ruled queued ruling))).2

def Event.isRunNext : Event → Bool
  | .runNext => true
  | _ => false

/-- When so many callbacks have run the verifier has ended. -/
theorem EndsWithin.run (ends : EndsWithin n s) (events : List Event) :
    EndsWithin (n - events.countP Event.isRunNext) (s.run events) := by
  -- Only the callbacks that run count down; every other event keeps the number.
  induction events generalizing n s with
  | nil => exact ends
  | cons event rest ih =>
    by_cases runs : event.isRunNext = true
    · cases event with
      | runNext =>
        rw [List.countP_cons_of_pos runs, Nat.add_comm, Nat.sub_add_eq]
        exact ih ends.runNext
      | _ => cases runs
    · rw [List.countP_cons_of_neg runs]
      exact ih ((lasting_endsWithin n).enduring.step trivial (follows_any s) ends).2

end Lapse

section Watch

variable (request : Request)

/-- No timeout was delivered, is to be told or is waiting in the queue. -/
structure Early (notices : List Notice) (s : Verification) : Prop where
  queued : ∀ callback ∈ s.queue, ¬ callback.BringsTimeout
  undelivered : overdueOutcome ∉ deliveries s.history
  untold : .result overdueOutcome ∉ notices

/-- What the readings so far say about a verification: early as long as none is late, and after a
late one the end is near. -/
structure Watch (seen : List Seconds) (notices : List Notice) (s : Verification) : Prop where
  asked : s.verifier.request = request
  early : (∀ reading ∈ seen, ¬ Late request.firstRequest reading) → Early notices s
  late : (∃ reading ∈ seen, Late request.firstRequest reading) → ∃ n, EndsWithin n s

variable {request} {seen : List Seconds} {notices : List Notice} {s : Verification}

theorem Early.adopt (early : Early notices s) {d : Decision} {later : List Notice}
    (asks : ∀ callback, .enqueue callback ∈ d.effects → ¬ callback.BringsTimeout)
    (untold : .result overdueOutcome ∉ later) : Early later (s.adopt d).1 where
  queued := by
    intro callback member
    rcases (queue_adopt s d).2 callback member with old | new
    · exact early.queued callback old
    · exact asks callback new
  undelivered := by
    rw [deliveries_adopt]
    exact early.undelivered
  untold := untold

namespace Watch

/-- Without a reading the two properties have to be kept. -/
theorem keep {t : Verification} {later : List Notice} (w : Watch request seen notices s)
    (asked : t.verifier.request = s.verifier.request)
    (early : Early notices s → Early later t)
    (late : ∀ n, EndsWithin n s → EndsWithin n t) : Watch request seen later t where
  asked := asked.trans w.asked
  early := fun timely => early (w.early timely)
  late := fun seenLate => (w.late seenLate).imp late

/-- A late reading has to bring the end near, and without it the verification has to stay early. -/
theorem look {t : Verification} {later : List Notice} {due : Bool}
    (w : Watch request seen notices s)
    (asked : t.verifier.request = s.verifier.request)
    (early : (due = true → s.verifier.terminated = false →
      s.verifier.isOverdue s.clock = false) → Early notices s → Early later t)
    (kept : ∀ n, EndsWithin n s → EndsWithin n t)
    (late : due = true → s.verifier.terminated = false → s.verifier.isOverdue s.clock = true →
      ∃ n, EndsWithin n t) : Watch request (seen ++ s.look due) later t where
  asked := asked.trans w.asked
  early := by
    intro timely
    refine early ?_ (w.early fun reading member => timely reading (List.mem_append_left _ member))
    intro reads live
    refine Bool.eq_false_iff.mpr fun overdue => ?_
    rw [isOverdue_iff, w.asked] at overdue
    exact timely s.clock (List.mem_append_right _ (mem_look.mpr ⟨reads, live, rfl⟩)) overdue
  late := by
    rintro ⟨reading, member, isLate⟩
    rcases List.mem_append.mp member with old | new
    · exact (w.late ⟨reading, old, isLate⟩).imp kept
    · obtain ⟨reads, live, rfl⟩ := mem_look.mp new
      refine late reads live ?_
      rw [isOverdue_iff, w.asked]
      exact isLate

theorem opened (w : Watch request seen notices s) {d : Decision}
    (opening : Opening s.verifier s.clock d) :
    Watch request (seen ++ s.look true) notices (s.adopt d).1 := by
  refine w.look ?_ ?_ (fun n ends => ends.opened opening) ?_
  · rw [adopt_verifier, opening.verifier_eq]
  · intro timely early
    refine early.adopt ?_ early.untold
    intro callback asks
    obtain ⟨_, live, overdue⟩ := opening.of_enqueue asks
    exact absurd ((timely rfl live).symm.trans overdue) Bool.false_ne_true
  · intro _ live overdue
    cases opening with
    | refuse ended record => exact absurd (live.symm.trans ended) Bool.false_ne_true
    | tooLate _ _ =>
      refine ⟨_, EndsWithin.of_queued ?_⟩
      show Callback.giveUp ∈ s.queue ++ [Callback.giveUp]
      exact List.mem_append_right _ List.mem_cons_self
    | poll _ timely => exact absurd (timely.symm.trans overdue) Bool.false_ne_true

theorem terminated (w : Watch request seen notices s) :
    Watch request seen notices
      ({ s with verifier := s.verifier.stopped }.callOff s.verifier.timer) := by
  refine w.keep ?_ ?_ fun n _ => Or.inl (by rw [callOff_verifier]; rfl)
  · rw [callOff_verifier]
    rfl
  · intro early
    have stopped := early.adopt (d := s.verifier.terminate) ?_ early.untold
    · rwa [adopt_terminate] at stopped
    · exact fun callback asks => nomatch isWork_of_terminate asks

theorem move (w : Watch request seen notices s) (move : Move) :
    Watch request (seen ++ s.look (move == .start)) notices (s.move move).1 := by
  cases move with
  | start => exact w.opened (opening_start _ _)
  | terminate =>
    rw [Verification.move, adopt_terminate]
    have none : s.look (Move.terminate == .start) = [] := rfl
    rw [none, List.append_nil]
    exact w.terminated
  | linger seconds =>
    have none : s.look (Move.linger seconds == .start) = [] := rfl
    rw [none, List.append_nil]
    exact w.keep rfl (fun early => { early with }) fun _ => id

theorem moveAll (w : Watch request seen notices s) (last : Option Fault) (moves : List Move) :
    Watch request (seen ++ s.looksOfMoves moves) notices (s.moveAll last moves).1 := by
  -- What has been read grows from move to move, so it is general in the induction.
  induction moves generalizing seen s with
  | nil => rwa [looksOfMoves, List.append_nil]
  | cons m rest ih =>
    have moved := w.move m
    rw [looksOfMoves, Verification.moveAll, ← List.append_assoc]
    cases moving : s.move m with
    | mk t fault =>
      rw [moving] at moved
      cases fault with
      | none => exact ih moved
      | some fault => rwa [List.append_nil]

theorem upon {notice : Notice} (w : Watch request seen (notice :: notices) s) :
    Watch request seen notices (s.upon notice) := by
  cases notice with
  | fault message cause =>
    refine w.keep rfl (fun early => ?_) fun _ => id
    exact ⟨early.queued, early.undelivered, fun told => early.untold (List.mem_cons_of_mem _ told)⟩
  | result outcome =>
    refine w.keep rfl (fun early => ?_) fun _ => id
    refine ⟨early.queued, ?_, fun told => early.untold (List.mem_cons_of_mem _ told)⟩
    intro delivered
    rcases List.mem_cons.mp delivered with rfl | before
    · exact early.untold List.mem_cons_self
    · exact early.undelivered before

theorem abandon (w : Watch request seen notices s) : Watch request seen [] s :=
  w.keep rfl (fun early => ⟨early.queued, early.undelivered, List.not_mem_nil⟩) fun _ => id

theorem tellAll (w : Watch request seen notices s) :
    Watch request (seen ++ s.looksOfNotices notices) [] (s.tellAll notices).1 := by
  induction notices generalizing seen s with
  | nil => rwa [looksOfNotices, List.append_nil]
  | cons notice rest ih =>
    have told := w.upon.moveAll (s.reaction notice).fault (s.reaction notice).moves
    rw [← tell_eq] at told
    rw [looksOfNotices, Verification.tellAll, ← List.append_assoc]
    cases telling : s.tell notice with
    | mk t fault =>
      rw [telling] at told
      cases fault with
      | none => exact ih told
      | some fault =>
        rw [List.append_nil]
        exact told.abandon

/-- What a callback decides, before the handlers are told. -/
theorem ruled (w : Watch request seen [] s) {callback : Callback} {rest : List Callback}
    (queued : s.queue = callback :: rest) :
    Watch request (seen ++ s.look callback.readsClock)
      (s.verifier.run s.clock s.fresh callback).notices
      ({ s with queue := rest }.adopt (s.verifier.run s.clock s.fresh callback)).1 := by
  have ruling := ruling_run s.verifier s.clock s.fresh callback
  refine w.look ?_ ?_ ?_ ?_
  · rw [adopt_verifier, ruling.request_eq]
  · intro timely early
    -- Neither the callback nor its reading is a reason for the timeout, and there is no other.
    have popped : Early [] { s with queue := rest } := by
      refine ⟨fun other member => early.queued other ?_, early.undelivered, early.untold⟩
      rw [queued]
      exact List.mem_cons_of_mem _ member
    have harmless : ¬ callback.BringsTimeout := early.queued callback (by
      rw [queued]
      exact List.mem_cons_self)
    refine popped.adopt ?_ ?_
    · intro other asks
      obtain ⟨rfl, opening⟩ := ruling.reopens asks rfl
      obtain ⟨_, live, overdue⟩ := opening.of_enqueue asks
      exact absurd ((timely rfl live).symm.trans overdue) Bool.false_ne_true
    · intro told
      rcases (ruling.of_overdueOutcome told).2 with rfl | rfl | ⟨outcome, rfl, tag, live, overdue⟩
      · exact harmless .giveUp
      · exact harmless .polled
      · have reads : (outcome.tag == .pending) = true := by rw [tag]; rfl
        exact absurd ((timely reads live).symm.trans overdue) Bool.false_ne_true
  · exact fun n ends => (ends.ruled queued ruling).mono (Nat.sub_le _ _)
  · intro reads live overdue
    cases callback with
    | giveUp => cases reads
    | pollAgain =>
      refine ⟨_, EndsWithin.of_queued ?_⟩
      rw [Verifier.run, start_of_overdue live overdue]
      show Callback.giveUp ∈ rest ++ [Callback.giveUp]
      exact List.mem_append_right _ List.mem_cons_self
    | polled result =>
      rcases result with fault | outcome | shown
      · cases reads
      · obtain ⟨records, decided⟩ := run_of_lapsed live (eq_of_beq reads) overdue s.fresh
        refine ⟨0, Or.inl ?_⟩
        rw [adopt_verifier, decided]
        rfl
      · cases reads

theorem runNext (w : Watch request seen [] s) :
    Watch request (seen ++ s.looks .runNext) [] s.runNext := by
  cases queued : s.queue with
  | nil =>
    rw [looks, Verification.runNext, queued, List.append_nil]
    exact w
  | cons callback rest =>
    have decided := w.ruled queued
    rw [looks, queued, runNext_eq queued, enact]
    dsimp only
    rw [← List.append_assoc]
    cases adopted : { s with queue := rest }.adopt (s.verifier.run s.clock s.fresh callback) with
    | mk t fault =>
      rw [adopted] at decided
      have noting {u : Verification × Option Fault} {seen : List Seconds}
          (w : Watch request seen [] u.1) : Watch request seen [] (noting u) := by
        obtain ⟨u, _ | fault⟩ := u
        · exact w
        · exact w.keep rfl (fun early => { early with }) fun _ => id
      cases fault with
      | none => exact noting decided.tellAll
      | some fault =>
        rw [List.append_nil]
        exact noting (u := (t, some fault)) decided.abandon

theorem finish (w : Watch request seen [] s) {result : PollResult}
    (genuine : result.Genuine request) : Watch request seen [] (s.finish result) := by
  rw [Verification.finish]
  split
  · exact w
  · refine w.keep rfl (fun early => ?_) fun n ends => ends.grow id (List.prefix_append _ _)
    refine ⟨?_, early.undelivered, early.untold⟩
    intro callback member
    rcases List.mem_append.mp member with old | new
    · exact early.queued callback old
    · obtain rfl := List.mem_singleton.mp new
      rintro (_ | _)
      exact genuine.ne_overdue rfl

theorem fire (w : Watch request seen [] s) (timer : Timer) :
    Watch request seen [] (s.fire timer) := by
  rw [Verification.fire]
  split
  · refine w.keep rfl (fun early => ?_) fun n ends => ends.grow id (List.prefix_append _ _)
    refine ⟨?_, early.undelivered, early.untold⟩
    intro callback member
    rcases List.mem_append.mp member with old | new
    · exact early.queued callback old
    · obtain rfl := List.mem_singleton.mp new
      rintro (_ | _)
  · exact w

theorem step (w : Watch request seen [] s) {event : Event}
    (genuine : ∀ result, event = .finish result → result.Genuine request) :
    Watch request (seen ++ s.looks event) [] (s.step event) := by
  cases event with
  | start =>
    rw [Verification.step, start_eq]
    exact w.opened (opening_start _ _)
  | runNext => exact w.runNext
  | terminate =>
    rw [looks, List.append_nil, Verification.step, terminate_eq]
    exact w.terminated
  | finish result =>
    rw [looks, List.append_nil]
    exact w.finish (genuine result rfl)
  | fire timer =>
    rw [looks, List.append_nil]
    exact w.fire timer
  | tick time =>
    rw [looks, List.append_nil]
    exact w.keep rfl (fun early => { early with }) fun _ => id
  | closePool =>
    rw [looks, List.append_nil]
    exact w.keep rfl (fun early => { early with }) fun _ => id

theorem run (w : Watch request seen [] s) {events : List Event}
    (genuine : ∀ result, .finish result ∈ events → result.Genuine request) :
    Watch request (seen ++ s.looksAlong events) [] (s.run events) := by
  induction events generalizing seen s with
  | nil =>
    rw [looksAlong, List.append_nil]
    exact w
  | cons event rest ih =>
    rw [looksAlong, ← List.append_assoc]
    refine ih (w.step ?_) fun result member => genuine result (List.mem_cons_of_mem _ member)
    rintro result rfl
    exact genuine result List.mem_cons_self

end Watch

end Watch

/-- In every run the readings say how near the end is. -/
theorem watch_run {request : Request} {events : List Event}
    (genuine : ∀ result, .finish result ∈ events → result.Genuine request) (clock : Seconds)
    (onResult onFault : List Reaction) :
    Watch request ((ofRequest request clock onResult onFault).looksAlong events) []
      ((ofRequest request clock onResult onFault).run events) := by
  have begun : Watch request [] [] (ofRequest request clock onResult onFault) := by
    refine ⟨rfl, fun _ => ⟨?_, List.not_mem_nil, List.not_mem_nil⟩, ?_⟩
    · exact fun callback member => absurd member List.not_mem_nil
    · rintro ⟨reading, impossible, _⟩
      cases impossible
  exact begun.run genuine

end Verification

end TransferProof
