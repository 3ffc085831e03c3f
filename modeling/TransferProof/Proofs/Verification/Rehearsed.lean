import TransferProof.Proofs.Verification.Tale
import TransferProof.Verification.Rehearsal

/-!
# Rehearsed verifications

Whatever a rehearsal does between its cues, it only chooses an order of the things that can happen
to its verification. If the classifier has no stand-in and the handlers have a habit, a rehearsed
verification keeps to its course.
-/

namespace TransferProof.Rehearsal

open Verification

/-- The classifier has no stand-in, the handlers follow their habit, and the verification keeps to
its course. -/
structure Faithful (request : Request) (habit : Habit) (r : Rehearsal) : Prop where
  classifier : r.results = none
  follows : r.habit = some habit
  course : Course request habit r.verification

namespace Faithful

variable {request : Request} {habit : Habit} {r : Rehearsal}

theorem log {s : Verification} (course : Course request habit s) (records : List LogRecord) :
    Course request habit (Rehearsal.log s records) := by
  induction records generalizing s with
  | nil => exact course
  | cons record rest ih => exact ih (course.observe rfl)

theorem conclude (faithful : Faithful request habit r) {client : Client}
    {provider : Option ProxyAnswer}
    {agent : Text} {session : Call → Reply} {v : Verifier} (asked : v.request = request) :
    Faithful request habit (r.conclude (Poll.ask v client provider agent session)) := by
  rw [Rehearsal.conclude, faithful.classifier, faithful.course.asked]
  refine ⟨?_, faithful.follows, (log faithful.course _).finish ?_⟩
  · dsimp only
    split <;> rfl
  · exact ⟨v, client, provider, agent, session, asked, rfl⟩

theorem poll (faithful : Faithful request habit r) : Faithful request habit r.poll := by
  have opened := faithful.course.observe (o := .logged (Poll.opening r.verification.verifier)) rfl
  rw [Rehearsal.poll]
  refine conclude ?_ faithful.course.asked
  split
  · exact ⟨faithful.classifier, faithful.follows, (opened.observe rfl).tick _⟩
  · exact ⟨faithful.classifier, faithful.follows, opened⟩

theorem polls (faithful : Faithful request habit r) (n : Nat) :
    Faithful request habit (Rehearsal.polls n r) := by
  induction n generalizing r with
  | zero => exact faithful
  | succ n ih => exact ih faithful.poll

theorem work (faithful : Faithful request habit r) : Faithful request habit r.work := by
  rw [Rehearsal.work]
  split
  · exact ⟨faithful.classifier, faithful.follows, faithful.course⟩
  · exact faithful.polls _

theorem runNext (faithful : Faithful request habit r) : Faithful request habit r.runNext := by
  rw [Rehearsal.runNext, faithful.follows]
  exact ⟨faithful.classifier, rfl, faithful.course.runNextBy⟩

theorem drainWithin (faithful : Faithful request habit r) (n : Nat) :
    Faithful request habit (Rehearsal.drainWithin n r) := by
  induction n generalizing r with
  | zero => exact faithful
  | succ n ih =>
    rw [Rehearsal.drainWithin]
    split
    · exact faithful
    · exact ih faithful.runNext.work

theorem drain (faithful : Faithful request habit r) : Faithful request habit r.drain :=
  faithful.drainWithin _

theorem settle (faithful : Faithful request habit r) : Faithful request habit r.settle := by
  rw [Rehearsal.settle]
  split
  · exact faithful
  · exact faithful.drain

theorem fireWithin (faithful : Faithful request habit r) (target : Seconds) (n : Nat) :
    Faithful request habit (Rehearsal.fireWithin target n r) := by
  induction n generalizing r with
  | zero => exact faithful
  | succ n ih =>
    rw [Rehearsal.fireWithin]
    split
    · exact faithful
    · split
      · exact ih (settle ⟨faithful.classifier, faithful.follows, (faithful.course.tick _).fire _⟩)
      · exact faithful

theorem advance (faithful : Faithful request habit r) (seconds : Seconds) :
    Faithful request habit (r.advance seconds) := by
  have fired := faithful.fireWithin (r.verification.clock + seconds)
    (firings r (r.verification.clock + seconds))
  exact ⟨fired.classifier, fired.follows, fired.course.tick _⟩

theorem act_advance (faithful : Faithful request habit r) (seconds : Seconds) :
    Faithful request habit (r.act (.advance seconds)).1 :=
  (faithful.advance seconds).settle

end Faithful

/-- A rehearsal from its start on. -/
theorem faithful_start {request : Request} {habit : Habit} {r : Rehearsal}
    (classifier : r.results = none) (follows : r.habit = some habit)
    (unstarted : Unstarted request r.verification) :
    Faithful request habit (r.act .start).1 := by
  have started : Faithful request habit { r with verification := r.verification.start.1 } :=
    ⟨classifier, follows, unstarted.start habit⟩
  exact started.work.settle

theorem unstarted_foldl {request : Request} {s : Verification} (unstarted : Unstarted request s)
    (records : List LogRecord) :
    Unstarted request (records.foldl (fun s record => s.observe (.logged record)) s) := by
  induction records generalizing s with
  | nil => exact unstarted
  | cons record rest ih =>
    refine ih ⟨unstarted.asked, unstarted.live, ?_, ?_⟩
    · exact unstarted.idle.congr rfl rfl rfl rfl
    · rw [told_observe, unstarted.told]
      rfl

theorem unstarted_ofRequest {request : Request} {clock : Seconds} {onResult onFault : List Reaction}
    {provider : Option ProxyAnswer} {agent : Text} {replies : List TimedReply} {r : Rehearsal}
    (made : Rehearsal.ofRequest request clock onResult onFault provider agent replies = .ok r) :
    r.results = none ∧ Unstarted request r.verification := by
  rw [Rehearsal.ofRequest] at made
  split at made
  · cases made
  · obtain rfl := Except.ok.inj made
    exact ⟨rfl, unstarted_foldl (Verification.unstarted_ofRequest request clock _ _) _⟩

end TransferProof.Rehearsal
