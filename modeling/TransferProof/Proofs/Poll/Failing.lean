import TransferProof.Poll
import TransferProof.Proofs.Classifier.Totality

/-!
# How a poll fails

A fault passes through three layers before it is reported. The client makes a failed transport of
the faults of the network layer and of error statuses, the poll makes one of a body that is no
document, and every other fault goes through as it is. At the end the report looks at the cause of a
failed transport, so that what it names is what was at fault in the first place.
-/

namespace TransferProof

namespace Reply

variable {url body : Text} {status : Int} {reason : Option Text}

def IsError (status : Int) : Prop := 400 ≤ status ∧ status < 600

def refusal (status : Int) (reason : Option Text) (url : Text) : Fault :=
  statusFault status (if status < 500 then " Client Error: " else " Server Error: ")
    (reason.getD "None") url

theorem body_of_isError (error : IsError status) :
    (response status reason body).body url = .error (refusal status reason url) := by
  obtain ⟨low, high⟩ := error
  rw [Reply.body, refusal]
  by_cases client : status < 500
  · rw [if_pos ⟨low, client⟩, if_pos client]
  · have server : 500 ≤ status ∧ status < 600 := ⟨Int.not_lt.mp client, high⟩
    rw [if_neg (fun h => client h.2), if_pos server, if_neg client]

theorem body_of_fine (fine : ¬ IsError status) :
    (response status reason body).body url = .ok body := by
  have client : ¬ (400 ≤ status ∧ status < 500) := by
    intro h
    exact fine ⟨h.1, by omega⟩
  have server : ¬ (500 ≤ status ∧ status < 600) := by
    intro h
    exact fine ⟨by omega, h.2⟩
  rw [Reply.body, if_neg client, if_neg server]

end Reply

namespace Poll

section Asking

variable (v : Verifier) (client : Client) (provider : Option ProxyAnswer) (agent : Text)
  (session : Call → Reply)

def callBy (proxy : Option Text) : Call :=
  client.call v.request.query (Client.header (some "User-Agent") (some agent)) proxy

/-- The session is asked at this address and gives this reply. -/
def Replies (url : Text) (reply : Reply) : Prop :=
  ∃ proxy, client.proxy provider = .ok proxy ∧ session (callBy v client agent proxy) = reply
    ∧ url = (callBy v client agent proxy).url

/-- The fault comes up while the service is asked, before there is a response. -/
inductive Raised : Fault → Prop where
  | provider {fault : Fault} (asked : client.proxy provider = .error fault) : Raised fault
  | session {fault : Fault} {url : Text}
      (replies : Replies v client provider agent session url (.failure fault)) : Raised fault

def parseFault (fault : Json.Fault) : Fault :=
  let kind : FaultKind := match fault with
    | .malformed _ _ _ _ => .json
    | .tooManyDigits _ => .value
  .plain kind (some fault.message)

/-- The ways in which a poll fails, each with the fault that the poll ends in and with the one that
was at fault in the first place. -/
inductive Fails : Fault → Fault → Prop where
  /-- A fault of the network layer is wrapped. -/
  | network {fault : Fault} (raised : Raised v client provider agent session fault)
      (layer : fault.isNetwork = true) : Fails (Client.wrap fault) fault
  /-- A transport that has failed before, and is known to have done so for some cause. -/
  | transport {cause : Fault} {message : Option Text}
      (raised : Raised v client provider agent session (.transportBy cause message)) :
      Fails (.transportBy cause message) cause
  /-- Any other fault. -/
  | other {fault : Fault} (raised : Raised v client provider agent session fault)
      (layer : fault.isNetwork = false) (unknown : fault.cause? = none) : Fails fault fault
  | status {url body : Text} {status : Int} {reason : Option Text}
      (replies : Replies v client provider agent session url (.response status reason body))
      (error : Reply.IsError status) :
      Fails (Client.wrap (Reply.refusal status reason url)) (Reply.refusal status reason url)
  | body {url body : Text} {status : Int} {reason : Option Text} {fault : Json.Fault}
      (replies : Replies v client provider agent session url (.response status reason body))
      (fine : ¬ Reply.IsError status) (garbled : Json.ofText body = .error fault) :
      Fails (malformed fault) (parseFault fault)
  | classifier {url body : Text} {status : Int} {reason : Option Text} {document : Json}
      {fault : Fault}
      (replies : Replies v client provider agent session url (.response status reason body))
      (fine : ¬ Reply.IsError status) (read : Json.ofText body = .ok document)
      (classified : (Classifier.classify v.request body).result = .error fault) :
      Fails fault fault

end Asking

section Outcome

variable {v : Verifier} {client : Client} {provider : Option ProxyAnswer} {agent : Text}
  {session : Call → Reply} {fault cause : Fault}

theorem cause?_wrap (layer : fault.isNetwork = true) :
    (Client.wrap fault).cause? = some fault := by
  rw [Client.wrap, if_pos layer]
  rfl

theorem wrap_of_other (layer : fault.isNetwork = false) : Client.wrap fault = fault := by
  rw [Client.wrap, if_neg (Bool.eq_false_iff.mp layer)]

/-- What is reported of a failed poll is what was at fault in the first place. -/
theorem Fails.origin_eq (fails : Fails v client provider agent session fault cause) :
    fault.origin = cause := by
  cases fails with
  | network raised layer =>
    rw [Fault.origin, cause?_wrap layer]
    rfl
  | transport raised => rfl
  | other raised layer unknown =>
    rw [Fault.origin, unknown]
    rfl
  | status replies error => rfl
  | body replies fine garbled => rfl
  | classifier replies fine read classified =>
    obtain ⟨rfl, _⟩ := Classifier.classify_error_iff.mp classified
    rfl

/-- There is a response, unless a fault comes up before. -/
theorem raised_or_replies :
    (∃ fault, Raised v client provider agent session fault)
      ∨ ∃ url status reason body,
        Replies v client provider agent session url (.response status reason body) := by
  cases found : client.proxy provider with
  | error fault => exact Or.inl ⟨fault, .provider found⟩
  | ok proxy =>
    cases replied : session (callBy v client agent proxy) with
    | failure fault => exact Or.inl ⟨fault, .session ⟨proxy, found, replied, rfl⟩⟩
    | response status reason body =>
      exact Or.inr ⟨_, status, reason, body, proxy, found, replied, rfl⟩

theorem received_of_raised (raised : Raised v client provider agent session fault) :
    (ask v client provider agent session).received = .error (Client.wrap fault) := by
  cases raised with
  | provider asked => simp [ask, Client.get, asked]
  | session replies =>
    obtain ⟨proxy, found, replied, _⟩ := replies
    rw [callBy] at replied
    simp [ask, Client.get, found, replied, Reply.body]

theorem received_of_replies {url body : Text} {status : Int} {reason : Option Text}
    (replies : Replies v client provider agent session url (.response status reason body)) :
    (ask v client provider agent session).received =
      match (Reply.response status reason body).body url with
      | .ok body => read body
      | .error fault => .error (Client.wrap fault) := by
  obtain ⟨proxy, found, replied, rfl⟩ := replies
  rw [callBy] at replied ⊢
  simp only [ask, Client.get, found, replied]
  cases (Reply.response status reason body).body _ <;> rfl

theorem received_of_isError {url body : Text} {status : Int} {reason : Option Text}
    (replies : Replies v client provider agent session url (.response status reason body))
    (error : Reply.IsError status) :
    (ask v client provider agent session).received =
      .error (Client.wrap (Reply.refusal status reason url)) := by
  rw [received_of_replies replies, Reply.body_of_isError error]

theorem received_of_fine {url body : Text} {status : Int} {reason : Option Text}
    (replies : Replies v client provider agent session url (.response status reason body))
    (fine : ¬ Reply.IsError status) :
    (ask v client provider agent session).received = read body := by
  rw [received_of_replies replies, Reply.body_of_fine fine]

theorem run_of_received_error {classify : BodyClassifier}
    (received : (ask v client provider agent session).received = .error fault) :
    run v client provider agent session classify = .error fault := by
  rw [run, conclude, received]

theorem run_of_received_ok {body : Text} {document : Json}
    (received : (ask v client provider agent session).received = .ok (body, document)) :
    run v client provider agent session (.standard v.request) =
      (Classifier.classify v.request body).result.map .outcome := by
  rw [run, conclude, received]
  rfl

theorem Fails.run_eq (fails : Fails v client provider agent session fault cause) :
    run v client provider agent session (.standard v.request) = .error fault := by
  cases fails with
  | network raised layer => exact run_of_received_error (received_of_raised raised)
  | transport raised => exact run_of_received_error (received_of_raised raised)
  | other raised layer unknown =>
    refine run_of_received_error ?_
    rw [received_of_raised raised, wrap_of_other layer]
  | status replies error => exact run_of_received_error (received_of_isError replies error)
  | body replies fine garbled =>
    refine run_of_received_error ?_
    rw [received_of_fine replies fine, read, garbled]
  | @classifier url body status reason document fault replies fine read classified =>
    have received : (ask v client provider agent session).received = .ok (body, document) := by
      rw [received_of_fine replies fine, Poll.read, read]
    rw [run_of_received_ok received, classified]
    rfl

theorem fails_of_raised (raised : Raised v client provider agent session fault) :
    ∃ cause, Fails v client provider agent session (Client.wrap fault) cause := by
  cases layer : fault.isNetwork with
  | true => exact ⟨fault, .network raised layer⟩
  | false =>
    rw [wrap_of_other layer]
    cases fault with
    | transportBy cause message => exact ⟨cause, .transport raised⟩
    | plain kind message => exact ⟨_, .other raised layer rfl⟩
    | transport message => exact ⟨_, .other raised layer rfl⟩

/-- A response lets a poll fail only in one of these ways. -/
theorem fails_of_replies {url body : Text} {status : Int} {reason : Option Text}
    (replies : Replies v client provider agent session url (.response status reason body))
    (failed : run v client provider agent session (.standard v.request) = .error fault) :
    ∃ cause, Fails v client provider agent session fault cause := by
  by_cases error : Reply.IsError status
  · rw [run_of_received_error (received_of_isError replies error)] at failed
    obtain rfl := Except.error.inj failed
    exact ⟨_, .status replies error⟩
  have received := received_of_fine replies error
  cases document : Json.ofText body with
  | error garbled =>
    rw [read, document] at received
    rw [run_of_received_error received] at failed
    obtain rfl := Except.error.inj failed
    exact ⟨_, .body replies error document⟩
  | ok _ =>
    rw [read, document] at received
    rw [run_of_received_ok received] at failed
    cases classified : (Classifier.classify v.request body).result with
    | error raised =>
      rw [classified] at failed
      obtain rfl := Except.error.inj failed
      exact ⟨_, .classifier replies error document classified⟩
    | ok outcome =>
      rw [classified] at failed
      cases failed

/-- A poll fails in one of these ways, and in no other. -/
theorem run_eq_error_iff :
    run v client provider agent session (.standard v.request) = .error fault ↔
      ∃ cause, Fails v client provider agent session fault cause := by
  constructor
  · intro failed
    have asked : (∃ fault, Raised v client provider agent session fault)
        ∨ ∃ url status reason body,
          Replies v client provider agent session url (.response status reason body) :=
      raised_or_replies
    rcases asked with ⟨raisedFault, raised⟩ | ⟨url, status, reason, body, replies⟩
    · rw [run_of_received_error (received_of_raised raised)] at failed
      obtain rfl := Except.error.inj failed
      exact fails_of_raised raised
    · exact fails_of_replies replies failed
  · rintro ⟨cause, fails⟩
    exact fails.run_eq

end Outcome

end Poll

end TransferProof
