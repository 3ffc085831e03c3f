import TransferProof.Proofs.Outcome.Wording
import TransferProof.Proofs.Verification.Documented

/-!
# Printed outcomes

The classifier, and a verifier whose polls it judges, come to outcomes only of which everything is
written: a count goes with pending confirmations alone, and a message is never empty. So what is
printed of such an outcome is printed of no other.
-/

namespace TransferProof

open Verifier

section Classified

variable {request : Request} {outcome : Outcome}

/-- What is printed of an answer to a document leaves nothing out. -/
theorem Classifier.Listed.explicit (listed : Classifier.Listed request outcome) :
    outcome.Explicit := by
  cases listed with
  | success => exact Outcome.explicit_success
  | unseen => exact Outcome.explicit_of_detail (by decide) (.bare (by decide))
  | unconfirmed few => exact Outcome.explicit_of_detail (by decide) (.counted _)
  | failed told =>
    refine Outcome.explicit_of_detail (by decide) (.bare ?_)
    rintro rfl
    exact absurd told (by decide)
  | failure => exact Outcome.explicit_of_detail (by decide) (.worded (by decide) (by decide))
  | invalid complaint =>
    exact Outcome.explicit_of_detail (by decide) (.worded (by decide) complaint.ne_nil)

/-- Whatever a body is, document or not, the outcome of it is printed in full. -/
theorem Classifier.explicit_classify {body : Text}
    (classified : (Classifier.classify request body).result = .ok outcome) : outcome.Explicit := by
  cases read : Json.ofText body with
  | error fault =>
    rw [Classifier.classify, read] at classified
    obtain rfl := Except.ok.inj classified
    exact Outcome.explicit_of_detail (by decide) (.worded (by decide) (List.cons_ne_nil _ _))
  | ok document => exact (Classifier.answers_classify request read outcome classified).explicit

/-- How a poll may end whose body the classifier judges: in any fault, or with the outcome of some
body. -/
inductive PollResult.Judged (request : Request) : PollResult → Prop where
  | fault (fault : Fault) : Judged request (.error fault)
  | outcome {body : Text} {outcome : Outcome}
      (classified : (Classifier.classify request body).result = .ok outcome) :
      Judged request (.ok (.outcome outcome))

theorem PollResult.Genuine.judged {result : PollResult}
    (genuine : PollResult.Genuine request result) : result.Judged request := by
  obtain ⟨v, client, provider, agent, session, _, rfl⟩ := genuine
  rw [Poll.run, Poll.conclude]
  split
  case h_1 fault received => exact .fault fault
  case h_2 body document received =>
    rw [BodyClassifier.standard]
    cases classified : (Classifier.classify request body).result with
    | error fault => exact .fault fault
    | ok outcome => exact .outcome classified

theorem PollResult.Judged.explicit (judged : PollResult.Judged request (.ok (.outcome outcome))) :
    outcome.Explicit := by
  cases judged with
  | outcome classified => exact Classifier.explicit_classify classified

end Classified

/-- An outcome that is stored after a callback was stored before it, came with it or is told. -/
theorem Verifier.Ruling.of_stored {v : Verifier} {now : Seconds} {fresh : Nat}
    {callback : Callback} {d : Decision} (ruling : Ruling v now fresh callback d)
    {outcome : Outcome} (stored : d.verifier.outcome = some outcome) :
    v.outcome = some outcome ∨ callback = .polled (.ok (.outcome outcome))
      ∨ .result outcome ∈ d.notices := by
  have brought {other : Callback} (stored : (v.storing other).outcome = some outcome) :
      v.outcome = some outcome ∨ other = .polled (.ok (.outcome outcome)) := by
    unfold storing at stored
    split at stored
    · obtain rfl := Option.some.inj stored
      exact .inr rfl
    · exact .inl stored
  cases ruling with
  | reopen opening =>
    rw [opening.verifier_eq] at stored
    exact .inl stored
  | drop ended records => exact (brought stored).imp_right .inl
  | ignore live strange records => exact (brought stored).imp_right .inl
  | wait live tag timely next =>
    obtain rfl := Option.some.inj stored
    exact .inr (.inl rfl)
  | conclude live ending records =>
    obtain rfl := Option.some.inj stored
    exact .inr (.inr (List.mem_append_right _ List.mem_cons_self))

namespace Verification

/-- Only such outcomes were or are to be delivered, and such an outcome is the one that is stored.
-/
structure Retains (brings : PollResult → Prop) (tells : Outcome → Prop) (notices : List Notice)
    (s : Verification) : Prop extends Relays brings tells notices s where
  stored : ∀ outcome, s.verifier.outcome = some outcome → tells outcome

section Retained

variable {brings : PollResult → Prop} {tells : Outcome → Prop} (conveys : Conveys brings tells)
  (brought : ∀ outcome, brings (.ok (.outcome outcome)) → tells outcome)

include conveys brought

theorem Retains.ruled {s : Verification} (h : Retains brings tells [] s) {callback : Callback}
    {rest : List Callback} {d : Decision} (queued : s.queue = callback :: rest)
    (ruling : Ruling s.verifier s.clock s.fresh callback d) :
    Retains brings tells d.notices ({ s with queue := rest }.adopt d).1 := by
  have relays := h.toRelays.ruled conveys queued ruling
  refine ⟨relays, fun outcome stored => ?_⟩
  rw [adopt_verifier] at stored
  rcases ruling.of_stored stored with before | rfl | told
  · exact h.stored outcome before
  · apply brought
    apply h.queued
    rw [queued]
    exact List.mem_cons_self
  · exact relays.told outcome told

/-- But for the rulings no step of a run stores an outcome. -/
theorem lasting_retains :
    Lasting (fun _ => True) (fun event => ∀ result, event = .finish result → brings result)
      (Retains brings tells) := by
  have relays := lasting_relays conveys
  exact {
    starts := relays.starts
    opened := by
      intro notices s d may h opening
      refine ⟨relays.opened may h.toRelays opening, ?_⟩
      rw [adopt_verifier, opening.verifier_eq]
      exact h.stored
    terminated := by
      intro notices s h
      refine ⟨relays.terminated h.toRelays, ?_⟩
      rw [callOff_verifier]
      exact h.stored
    ticked := fun time h => ⟨relays.ticked time h.toRelays, h.stored⟩
    reported := fun h => ⟨relays.reported h.toRelays, h.stored⟩
    delivered := fun h => ⟨relays.delivered h.toRelays, h.stored⟩
    abandoned := fun h => ⟨relays.abandoned h.toRelays, h.stored⟩
    failed := fun fault h => ⟨relays.failed fault h.toRelays, h.stored⟩
    ruled := fun h queued ruling => h.ruled conveys brought queued ruling
    finished := by
      intro s result genuine h
      refine ⟨relays.finished genuine h.toRelays, ?_⟩
      rw [finish]
      split <;> exact h.stored
    fired := by
      intro s timer h
      refine ⟨relays.fired timer h.toRelays, ?_⟩
      rw [fire]
      split <;> exact h.stored
    closed := fun closes h => ⟨relays.closed closes h.toRelays, h.stored⟩ }

/-- In a run in which polls bring only such results only such outcomes are delivered or stored. -/
theorem retains_run (request : Request) (clock : Seconds) (onResult onFault : List Reaction)
    {events : List Event} (bring : ∀ result, .finish result ∈ events → brings result) :
    Retains brings tells [] ((ofRequest request clock onResult onFault).run events) := by
  have begun : Retains brings tells [] (ofRequest request clock onResult onFault) :=
    ⟨⟨nofun, nofun, nofun⟩, nofun⟩
  refine ((lasting_retains conveys brought).run ?_ (follows_any _) begun).2
  rintro event member result rfl
  exact bring result member

end Retained

theorem conveys_explicit (request : Request) :
    Conveys (PollResult.Judged request) Outcome.Explicit :=
  conveys_of_brought (fun _ judged => judged.explicit)
    (Outcome.explicit_of_detail (by decide) (.bare (by decide)))
    fun _ words => Outcome.explicit_of_detail (by decide) (.worded (by decide) words)

end Verification

open Verification

/-- An outcome of the classifier, or one that a verifier tells of or stores in some run, whatever
the faults of its polls and whatever its handlers do. -/
inductive Produced : Outcome → Prop where
  | classified {request : Request} {body : Text} {outcome : Outcome}
      (result : (Classifier.classify request body).result = .ok outcome) : Produced outcome
  | delivered {request : Request} {clock : Seconds} {onResult onFault : List Reaction}
      {events : List Event} {outcome : Outcome}
      (judged : ∀ result, .finish result ∈ events → result.Judged request)
      (told : outcome ∈
        deliveries ((ofRequest request clock onResult onFault).run events).history) :
      Produced outcome
  | stored {request : Request} {clock : Seconds} {onResult onFault : List Reaction}
      {events : List Event} {outcome : Outcome}
      (judged : ∀ result, .finish result ∈ events → result.Judged request)
      (last : ((ofRequest request clock onResult onFault).run events).verifier.outcome =
        some outcome) :
      Produced outcome

theorem Produced.explicit {outcome : Outcome} (produced : Produced outcome) :
    outcome.Explicit := by
  have retains {request : Request} (clock : Seconds) (onResult onFault : List Reaction)
      {events : List Event} (judged : ∀ result, .finish result ∈ events → result.Judged request) :=
    retains_run (conveys_explicit request) (fun _ judged => judged.explicit) request clock onResult
      onFault judged
  cases produced with
  | classified result => exact Classifier.explicit_classify result
  | delivered judged told => exact (retains _ _ _ judged).delivered outcome told
  | stored judged last => exact (retains _ _ _ judged).stored outcome last

/-- No two outcomes are printed alike, from whatever requests, bodies and faults they came. -/
theorem printed_faithfully {first second : Outcome} (one : Produced first) (two : Produced second)
    (alike : first.text = second.text) : first = second :=
  one.explicit.eq_of_text_eq two.explicit alike

/-- The failed connection that a verifier told of last is the one that it has stored. -/
theorem printed_faithfully_cutOff :
    ∃ told stored : Outcome, (deliveries ((small []).run cutOff).history).head? = some told
      ∧ ((small []).run cutOff).verifier.outcome = some stored
      ∧ told.text = stored.text ∧ told = stored := by
  have judged : ∀ result, .finish result ∈ cutOff →
      result.Judged (small []).verifier.request := fun result member =>
    (genuine_of_mem_twice (genuine_answeredBy _) (genuine_answeredBy _) result member).judged
  have alike : (deliveries ((small []).run cutOff).history).head?.map Outcome.text =
      ((small []).run cutOff).verifier.outcome.map Outcome.text := by decide +kernel
  obtain ⟨told, first⟩ : ∃ told, (deliveries ((small []).run cutOff).history).head? = some told :=
    Option.isSome_iff_exists.mp (by decide +kernel)
  obtain ⟨stored, last⟩ : ∃ stored, ((small []).run cutOff).verifier.outcome = some stored :=
    Option.isSome_iff_exists.mp (by decide +kernel)
  rw [first, last] at alike
  have texts : told.text = stored.text := Option.some.inj alike
  have delivered : Produced told := .delivered judged (List.mem_of_head? first)
  exact ⟨told, stored, first, last, texts, printed_faithfully delivered (.stored judged last) texts⟩

end TransferProof
