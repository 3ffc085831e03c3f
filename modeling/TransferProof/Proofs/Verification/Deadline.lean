import TransferProof.Proofs.Verification.Steps
import TransferProof.Proofs.Verifier.Window

/-!
# Polls in time

Every poll is submitted, and every pending outcome delivered, at a reading of the clock that is not
late. This holds of every run, however the verifier is started and whatever the clock shows.
-/

namespace TransferProof

def Observation.InTime (first : Seconds) : Observation → Prop
  | .submitted reading => ¬ Verifier.Late first reading
  | .delivered outcome time => outcome.isTerminal = false → ¬ Verifier.Late first time
  | _ => True

namespace Verification

open Verifier

theorem not_late_of_timely {v : Verifier} {now : Seconds} (timely : v.isOverdue now = false) :
    ¬ Late v.request.firstRequest now := by
  intro late
  rw [(v.isOverdue_iff now).mpr late] at timely
  cases timely

/-- The verifier has the request that it had at first, and whatever happened or is still to be told
is in time. -/
structure InTime (request : Request) (notices : List Notice) (s : Verification) : Prop where
  asked : s.verifier.request = request
  happened : ∀ o ∈ s.history, o.InTime request.firstRequest
  told : ∀ outcome, .result outcome ∈ notices → outcome.isTerminal = false →
    ¬ Late request.firstRequest s.clock

namespace InTime

variable {request : Request} {notices later : List Notice} {s : Verification}

/-- Nothing is still to be told. -/
theorem nil (h : InTime request notices s) : InTime request [] s where
  asked := h.asked
  happened := h.happened
  told := fun _ member => absurd member List.not_mem_nil

theorem observe (h : InTime request notices s) {o : Observation}
    (inTime : o.InTime request.firstRequest) : InTime request notices (s.observe o) where
  asked := h.asked
  happened := by
    intro x member
    rcases List.mem_cons.mp member with rfl | old
    · exact inTime
    · exact h.happened x old
  told := h.told

/-- Of the effects of a decision only a poll has to be in time. -/
theorem adopt (h : InTime request notices s) {d : Decision}
    (asked : d.verifier.request = s.verifier.request)
    (submits : .submit ∈ d.effects → s.verifier.isOverdue s.clock = false)
    (told : ∀ outcome, .result outcome ∈ later → outcome.isTerminal = false →
      ¬ Late request.firstRequest s.clock) : InTime request later (s.adopt d).1 where
  asked := by rw [adopt_verifier, asked, h.asked]
  happened := by
    intro o member
    rcases mem_history_adopt s member with old | ⟨effect, among, new⟩
    · exact h.happened o old
    · cases effect with
      | submit =>
        obtain rfl := Option.some.inj new
        have inTime := not_late_of_timely (submits among)
        rwa [h.asked] at inTime
      | enqueue callback => cases new
      | _ =>
        obtain rfl := Option.some.inj new
        trivial
  told := by
    rw [adopt_clock]
    exact told

end InTime

theorem enduring_inTime (request : Request) :
    Enduring (fun _ => True) (fun _ _ => True) (InTime request) where
  starts := fun _ => trivial
  opened := fun _ h opening => h.adopt (congrArg Verifier.request opening.verifier_eq)
    (fun submits => (opening.of_submit submits).2) h.told
  terminated := by
    intro notices s h
    have ended := h.adopt (d := s.verifier.terminate) rfl ?_ h.told
    · rwa [adopt_terminate] at ended
    · exact fun submits => nomatch isWork_of_terminate submits
  lingered := by
    intro notices s seconds _ final h
    refine ⟨h.asked, h.happened, ?_⟩
    intro outcome member pending
    rw [final outcome member] at pending
    cases pending
  reported := by
    intro notices s message cause h
    have called : InTime request notices { s with onFault := s.onFault.tail } :=
      ⟨h.asked, h.happened, fun outcome member => h.told outcome (List.mem_cons_of_mem _ member)⟩
    exact called.observe trivial
  delivered := by
    intro notices s outcome h
    have called : InTime request notices { s with onResult := s.onResult.tail } :=
      ⟨h.asked, h.happened, fun outcome member => h.told outcome (List.mem_cons_of_mem _ member)⟩
    exact called.observe (h.told outcome List.mem_cons_self)
  abandoned := InTime.nil
  failed := fun fault h => h.observe trivial
  ruled := by
    intro s callback rest d _ h queued ruling
    have popped : InTime request [] { s with queue := rest } := ⟨h.asked, h.happened, h.told⟩
    refine popped.adopt ruling.request_eq ?_ ?_
    · intro submits
      exact ((ruling.reopens submits rfl).2.of_submit submits).2
    · intro outcome told pending
      have inTime := not_late_of_timely (ruling.of_pending told pending)
      rwa [h.asked] at inTime
  finished := by
    intro s result _ h
    rw [finish]
    split
    · exact h
    · exact ⟨h.asked, h.happened, h.told⟩
  fired := by
    intro s timer _ h
    rw [fire]
    split
    · exact ⟨h.asked, h.happened, h.told⟩
    · exact h
  ticked := by
    intro s time _ h
    refine ⟨h.asked, h.happened, ?_⟩
    exact fun _ member => absurd member List.not_mem_nil
  closed := fun _ h => ⟨h.asked, h.happened, h.told⟩

/-- From its beginning a verification is in time. -/
theorem inTime_run (request : Request) (clock : Seconds) (onResult onFault : List Reaction)
    (events : List Event) :
    InTime request [] ((ofRequest request clock onResult onFault).run events) := by
  have begun : InTime request [] (ofRequest request clock onResult onFault) :=
    ⟨rfl, fun _ member => absurd member List.not_mem_nil,
      fun _ member => absurd member List.not_mem_nil⟩
  have everything : Along (fun _ _ => True) (ofRequest request clock onResult onFault) events :=
    along_of_forall _ fun _ _ => trivial
  exact ((enduring_inTime request).run everything (fun _ _ _ _ => trivial) begun).2

end Verification

end TransferProof
