import TransferProof.Proofs.Verification.Answered

/-!
# Documented outcomes

The handlers of a verifier hear of a few outcomes only: those that the classifier gives to
documents, the failed connection and the timeout. The latter two are the verifier's own. A body that
is no document is a failed connection before the classifier could find it invalid.
-/

namespace TransferProof

def Outcome.kind? (outcome : Outcome) : Option DetailKind := outcome.detail.map Detail.kind

/-- How the classifier begins its words about a body that is no document. -/
def Classifier.noDocument : Text := "Invalid json:"

inductive Documented (request : Request) : Outcome → Prop where
  | unseen : Documented request (.pending (.ofKind .txNotFound))
  | unconfirmed {count : Int} (few : count < request.requiredConfirmations) :
      Documented request (.pending (.ofConfirmations count))
  | success : Documented request .success
  | failed {kind : DetailKind} (told : kind ∈ [.txHashInvalid, .txKeyInvalid, .addressInvalid,
      .noMatchFound, .amountNotMatching, .tradeDateNotMatching]) : Documented request (.failed kind)
  | error {kind : DetailKind} {message : Text}
      (told : kind ∈ [.apiFailure, .apiInvalid, .connectionFailure]) (words : message ≠ [])
      (document : kind = .apiInvalid → ¬ Classifier.noDocument <+: message) :
      Documented request (.error kind (some message))
  | timeout : Documented request (.error .noResultsTimeout none)

section Classified

variable {request : Request} {outcome : Outcome}

theorem Classifier.Complaint.not_noDocument {message : Text}
    (complaint : Classifier.Complaint message) : ¬ Classifier.noDocument <+: message := by
  obtain ⟨c, rest, rfl, other⟩ := complaint.head
  intro begins
  exact other (List.cons_prefix_cons.mp begins).1.symm

/-- The answers to documents are documented. -/
theorem Classifier.Listed.documented (listed : Classifier.Listed request outcome) :
    Documented request outcome := by
  cases listed with
  | success => exact .success
  | unseen => exact .unseen
  | unconfirmed few => exact .unconfirmed few
  | failed told => exact .failed told
  | failure => exact .error (by decide) (by decide) nofun
  | invalid complaint => exact .error (by decide) complaint.ne_nil fun _ => complaint.not_noDocument

/-- The classifier never finds that a connection failed or that the time is over. -/
theorem Classifier.kind?_classify {body : Text}
    (classified : (Classifier.classify request body).result = .ok outcome) :
    outcome.kind? ≠ some .connectionFailure ∧ outcome.kind? ≠ some .noResultsTimeout := by
  cases read : Json.ofText body with
  | error fault =>
    rw [Classifier.classify, read] at classified
    obtain rfl := Except.ok.inj classified
    simp [Outcome.kind?, Outcome.error]
  | ok document =>
    cases Classifier.answers_classify request read outcome classified with
    | failed told =>
      constructor
      all_goals
        rintro same
        obtain rfl := Option.some.inj same
        revert told
        decide
    | _ => simp [Outcome.kind?, Outcome.success, Outcome.pending, Outcome.error, Detail.ofKind,
        Detail.ofConfirmations]

/-- What a genuine poll brings is documented, if it is an outcome. -/
theorem PollResult.Genuine.documented
    (genuine : PollResult.Genuine request (.ok (.outcome outcome))) :
    Documented request outcome := by
  obtain ⟨fault, impossible⟩ | ⟨other, same, listed⟩ := genuine.fault_or_listed
  · cases impossible
  · obtain rfl := Answer.outcome.inj (Except.ok.inj same)
    exact listed.documented

end Classified

namespace Verification

open Verifier

/-- Where polls are genuine handlers are told of nothing that is not documented. -/
theorem conveys_documented (request : Request) :
    Conveys (PollResult.Genuine request) (Documented request) :=
  conveys_of_brought (fun _ genuine => genuine.documented) .timeout
    fun _ words => .error (by decide) words nofun

/-- A poll ends in the fault, and with that in the failed connection of a verifier that has not
ended. -/
structure Unconnected (v : Verifier) (fault : Fault) (result : PollResult) : Prop where
  failed : result = .error fault
  told : ∀ now fresh, v.terminated = false → (v.polled now fresh result).notices =
    [.fault (v.text ++ " failed with error " ++ fault.shown) fault.origin,
      .result (.error .connectionFailure (some (v.text ++ " failed with error " ++ fault.shown)))]

/-- Whatever would classify it, a body that is no document is a failed connection. -/
theorem unconnected_of_no_document {v : Verifier} {client : Client} {provider : Option ProxyAnswer}
    {agent body : Text} {session : Call → Reply} {fault : Json.Fault}
    (answered : (client.get provider v.request.query
      (Client.header (some "User-Agent") (some agent)) session).result = .ok body)
    (garbled : Json.ofText body = .error fault) (classify : BodyClassifier) :
    Unconnected v (Poll.malformed fault) (Poll.run v client provider agent session classify) := by
  have received : (Poll.ask v client provider agent session).received =
      .error (Poll.malformed fault) := by
    rw [Poll.ask]
    dsimp only
    rw [answered]
    dsimp only
    rw [Poll.read, garbled]
  have failed : Poll.run v client provider agent session classify =
      .error (Poll.malformed fault) := by
    rw [Poll.run, Poll.conclude, received]
  refine ⟨failed, fun now fresh live => ?_⟩
  rw [failed, polled, fail, if_neg (Bool.eq_false_iff.mp live)]
  rfl

/-- In every run in which the polls are genuine only documented outcomes are delivered. The failed
connection and the timeout never come from the classifier, and a body that is no document never
comes to it. -/
theorem documented_run (request : Request) (clock : Seconds) (onResult onFault : List Reaction)
    {events : List Event} (genuine : ∀ result, .finish result ∈ events → result.Genuine request) :
    (∀ outcome ∈ deliveries ((ofRequest request clock onResult onFault).run events).history,
        Documented request outcome)
      ∧ (∀ body outcome, (Classifier.classify request body).result = .ok outcome →
        outcome.kind? ≠ some .connectionFailure ∧ outcome.kind? ≠ some .noResultsTimeout)
      ∧ ∀ (v : Verifier) (client : Client) (provider : Option ProxyAnswer) (agent body : Text)
          (session : Call → Reply) (fault : Json.Fault),
        (client.get provider v.request.query
          (Client.header (some "User-Agent") (some agent)) session).result = .ok body →
        Json.ofText body = .error fault →
        Unconnected v (Poll.malformed fault)
          (Poll.run v client provider agent session (.standard request)) := by
  refine ⟨fun outcome delivered => ?_, fun body outcome => Classifier.kind?_classify, ?_⟩
  · exact tells_of_mem_deliveries (conveys_documented request) request clock onResult onFault
      genuine delivered
  · intro v client provider agent body session fault answered garbled
    exact unconnected_of_no_document answered garbled _

section Garbled

def answeredBy (body : Text) : PollResult :=
  Poll.run (small []).verifier {} none "agent" (fun _ => .response 200 none body)
    (.standard (small []).verifier.request)

theorem genuine_answeredBy (body : Text) :
    (answeredBy body).Genuine (small []).verifier.request := by
  refine ⟨(small []).verifier, {}, none, "agent", fun _ => .response 200 none body, rfl, ?_⟩
  rw [answeredBy]

def twice (first second : PollResult) : List Event :=
  [.start, .finish first, .runNext, .tick 95, .fire ⟨0, 95⟩, .runNext, .finish second, .runNext]

theorem genuine_of_mem_twice {request : Request} {first second : PollResult}
    (before : first.Genuine request) (after : second.Genuine request) :
    ∀ result, .finish result ∈ twice first second → result.Genuine request := by
  intro result member
  simp only [twice, List.mem_cons, reduceCtorEq, false_or, Event.finish.injEq, List.not_mem_nil,
    or_false] at member
  obtain rfl | rfl := member
  · exact before
  · exact after

/-- A service that has not seen the transfer yet, and of which only the first letter of the second
answer arrives. -/
def cutOff : List Event :=
  twice (answeredBy "\x7b\"status\": \"fail\", \"data\": 0\x7d") (answeredBy "\x7b")

theorem documented_run_cutOff :
    (deliveries ((small []).run cutOff).history).map Outcome.kind? =
        [some .connectionFailure, some .txNotFound]
      ∧ ∀ outcome ∈ deliveries ((small []).run cutOff).history,
        Documented (small []).verifier.request outcome := by
  have genuine : ∀ result, .finish result ∈ cutOff →
      result.Genuine (small []).verifier.request :=
    genuine_of_mem_twice (genuine_answeredBy _) (genuine_answeredBy _)
  have law := documented_run (small []).verifier.request 5 [] [] genuine
  exact ⟨by decide +kernel, law.1⟩

end Garbled

end Verification

end TransferProof
