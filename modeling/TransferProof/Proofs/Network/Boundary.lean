import TransferProof.Proofs.Network.Routing
import TransferProof.Proofs.Poll.Failing

/-!
# The boundary of the transport

What a get makes of what the session does. The body of a success is returned. A fault of the network
layer and the refusal of an error status become a failed transport with that as its cause, and every
other fault passes through. A response whose status is neither a success nor an error is let through
with its body, as if it were a success; in all other cases the boundary is tight.
-/

namespace TransferProof

namespace Reply

def IsSuccess (status : Int) : Prop := 200 ≤ status ∧ status < 300

/-- A response whose status is neither a success nor an error. -/
def IsStray : Reply → Prop
  | .response status _ _ => ¬ IsSuccess status ∧ ¬ IsError status
  | .failure _ => False

def broken (cause : Fault) : Fault :=
  .transportBy cause (some ("HTTP error: " ++ cause.text))

/-- Only successes return a body, what the network layer finds wrong becomes a failed transport, and
every other fault is what it was. -/
structure Bounded (reply : Reply) (result : Except Fault Text) : Prop where
  returned : ∀ text, result = .ok text ↔
    ∃ status reason, reply = .response status reason text ∧ IsSuccess status
  refused : ∀ status reason body, reply = .response status reason body → ¬ IsSuccess status →
    ∃ cause, cause.isNetwork = true ∧ result = .error (broken cause)
  failed : ∀ fault, reply = .failure fault → fault.isNetwork = true →
    result = .error (broken fault)
  passed : ∀ fault, reply = .failure fault → fault.isNetwork = false → result = .error fault

def received (url : Text) (reply : Reply) : Except Fault Text :=
  match reply.body url with
  | .ok body => .ok body
  | .error fault => .error (Client.wrap fault)

variable {url body : Text} {status : Int} {reason : Option Text} {fault : Fault}

theorem wrap_of_network (layer : fault.isNetwork = true) : Client.wrap fault = broken fault := by
  simp [Client.wrap, layer, broken]

theorem received_response_of_fine (fine : ¬ IsError status) :
    (response status reason body).received url = .ok body := by
  rw [received, body_of_fine fine]

theorem received_response_of_isError (error : IsError status) :
    (response status reason body).received url = .error (broken (refusal status reason url)) := by
  have layer : (refusal status reason url).isNetwork = true := rfl
  rw [received, body_of_isError error, ← wrap_of_network layer]

theorem bounded_failure (url : Text) (fault : Fault) :
    Bounded (.failure fault) ((failure fault).received url) := by
  have failing : (failure fault).received url = .error (Client.wrap fault) := rfl
  rw [failing]
  constructor
  · simp
  · simp
  · intro other same layer
    obtain rfl := Reply.failure.inj same
    rw [wrap_of_network layer]
  · intro other same layer
    obtain rfl := Reply.failure.inj same
    rw [Poll.wrap_of_other layer]

theorem bounded_of_isSuccess (success : IsSuccess status) :
    Bounded (.response status reason body) ((response status reason body).received url) := by
  have fine : ¬ IsError status := by
    unfold IsError IsSuccess at *
    omega
  rw [received_response_of_fine fine]
  constructor
  · intro text
    simp [success]
  · rintro other _ _ same unsuccessful
    obtain ⟨rfl, -, -⟩ := Reply.response.inj same
    contradiction
  · simp
  · simp

theorem bounded_of_isError (error : IsError status) :
    Bounded (.response status reason body) ((response status reason body).received url) := by
  have unsuccessful : ¬ IsSuccess status := by
    unfold IsError IsSuccess at *
    omega
  rw [received_response_of_isError error]
  constructor
  · intro text
    simp [unsuccessful]
  · intro _ _ _ _ _
    exact ⟨refusal status reason url, rfl, rfl⟩
  · simp
  · simp

/-- The boundary is tight just if the reply is not stray. -/
theorem bounded_received_iff (url : Text) (reply : Reply) :
    Bounded reply (reply.received url) ↔ ¬ IsStray reply := by
  cases reply with
  | failure fault => exact ⟨fun _ => id, fun _ => bounded_failure url fault⟩
  | response status reason body =>
    constructor
    · rintro bounded ⟨unsuccessful, fine⟩
      have returned := (bounded.returned body).mp (received_response_of_fine fine)
      obtain ⟨other, _, same, success⟩ := returned
      obtain ⟨rfl, -, -⟩ := Reply.response.inj same
      exact unsuccessful success
    · intro straight
      by_cases success : IsSuccess status
      · exact bounded_of_isSuccess success
      · by_cases error : IsError status
        · exact bounded_of_isError error
        · exact absurd ⟨success, error⟩ straight

end Reply

namespace Usage

open Reply

def Willing (provider : Option (Nat → ProxyAnswer)) : Prop :=
  ∀ answers, provider = some answers → ∀ n, ∃ proxy, answers n = .ok proxy

theorem Willing.exists_proxy {u : Usage} (willing : Willing u.provider) :
    ∃ proxy, u.client.proxy u.answer = .ok proxy := by
  have route := u.client.route_proxy u.answer
  cases found : u.client.proxy u.answer with
  | ok proxy => exact ⟨proxy, rfl⟩
  | error fault =>
    obtain ⟨-, answer⟩ := (route.eq_error_iff fault).mp found
    obtain ⟨answers, provider, same⟩ := Option.map_eq_some_iff.mp answer
    obtain ⟨proxy, fine⟩ := willing answers provider u.questions
    rw [fine] at same
    cases same

theorem result_exchange (u : Usage) (get : Get) {proxy : Option Text}
    (found : u.client.proxy u.answer = .ok proxy) : ∃ call, (u.exchange get).call = some call
      ∧ (u.exchange get).result = (get.session call).received call.url := by
  refine ⟨_, by rw [exchange, Client.call_get, found], ?_⟩
  rw [exchange, Client.get, found]
  rfl

/-- In the life of a client whose provider does not fail every get reaches the session. The boundary
is tight for it just if the reply is not stray, and the body of a stray reply is returned. -/
theorem bounded_run {client : Client} {provider : Option (Nat → ProxyAnswer)}
    (willing : Willing provider) (before after : List Use) (get : Get) :
    ∃ exchange call, (run ⟨client, provider, []⟩ (before ++ .get get :: after)).exchanges[
        before.countP Use.isGet]? = some exchange
      ∧ exchange.call = some call
      ∧ (Bounded (get.session call) exchange.result ↔ ¬ IsStray (get.session call))
      ∧ ∀ status reason body, get.session call = .response status reason body →
          IsStray (get.session call) → exchange.result = .ok body := by
  have kept : (run ⟨client, provider, []⟩ before).provider = provider := provider_run _ before
  obtain ⟨proxy, found⟩ := Willing.exists_proxy (u := run ⟨client, provider, []⟩ before)
    (by rwa [kept])
  obtain ⟨call, sent, result⟩ := result_exchange _ get found
  refine ⟨_, call, getElem?_exchanges_run _ rfl before after get, sent, ?_, ?_⟩
  · rw [result]
    exact bounded_received_iff call.url (get.session call)
  · intro status reason body replied stray
    rw [replied] at stray
    rw [result, replied, received_response_of_fine stray.2]

def paged (status : Int) : Get where
  path := "/x"
  session := fun _ => .response status none "page"

/-- An error after a status that is stray. -/
theorem bounded_run_unavailable :
    Willing (some fun _ => .ok none)
      ∧ ∃ exchange call, (run ⟨{}, some fun _ => .ok none, []⟩
          [.get (paged 304), .get (paged 503)]).exchanges[1]? = some exchange
        ∧ exchange.call = some call ∧ Bounded ((paged 503).session call) exchange.result := by
  have willing : Willing (some fun _ => .ok none) := by
    rintro answers same n
    obtain rfl := Option.some.inj same
    exact ⟨none, rfl⟩
  obtain ⟨exchange, call, found, sent, tight, -⟩ :=
    @bounded_run {} _ willing [.get (paged 304)] [] (paged 503)
  refine ⟨willing, exchange, call, found, sent, tight.mpr ?_⟩
  rintro ⟨-, fine⟩
  exact fine ⟨by decide, by decide⟩

/-- The page that comes with the status 304 is returned as if it were a success. -/
theorem unmodified_is_let_through :
    ∃ exchange, (run ⟨{}, none, []⟩ [.get (paged 304)]).exchanges = [exchange]
      ∧ exchange.result = .ok "page" ∧ ¬ Bounded (.response 304 none "page") exchange.result := by
  refine ⟨_, rfl, rfl, fun bounded => ?_⟩
  obtain ⟨status, _, same, success⟩ := (bounded.returned "page").mp rfl
  obtain ⟨rfl, -, -⟩ := Reply.response.inj same
  exact absurd success.2 (by decide)

end Usage

end TransferProof
