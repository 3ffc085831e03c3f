import TransferProof.Network.Usage

/-!
# The routes of requests

Whether a request goes through a proxy is decided anew for each, by three things alone: whether the
client ignores proxies at that time, whether there is a provider, and what the provider answers to
this request. What has become of other requests has no influence.
-/

namespace TransferProof

section Client

variable {client : Client} {answer : Option ProxyAnswer}

/-- A client for a service starts with the service's address, and ignores proxies if the service is
local. -/
theorem Client.eq_of_forService {base : Client} {service : Text} {log : List LogRecord}
    (made : base.forService service = .ok (client, log)) :
    ∃ inOwnNetwork, Locality.isLocal service = .ok inOwnNetwork
      ∧ client = { base with baseUrl := "http://" ++ service, ignoreProxy := inOwnNetwork } := by
  rw [forService] at made
  cases place : Locality.isLocal service with
  | error fault =>
    rw [place] at made
    cases made
  | ok inOwnNetwork =>
    rw [place] at made
    obtain ⟨same, -⟩ := Prod.mk.inj (Except.ok.inj made)
    exact ⟨inOwnNetwork, rfl, same.symm⟩

/-- What a client goes by that asks for a proxy, or does not. -/
inductive Client.Route (client : Client) : Option ProxyAnswer → ProxyAnswer → Prop where
  | ignoring (answer : Option ProxyAnswer) (ignores : client.ignoreProxy = true) :
      Route client answer (.ok none)
  | unprovided : Route client none (.ok none)
  | direct {proxy : Option Text} (ignores : client.ignoreProxy = false)
      (empty : proxy = none ∨ proxy = some []) : Route client (some (.ok proxy)) (.ok none)
  | through {proxy : Text} (ignores : client.ignoreProxy = false) (named : proxy ≠ []) :
      Route client (some (.ok (some proxy))) (.ok (some proxy))
  | failing {fault : Fault} (ignores : client.ignoreProxy = false) :
      Route client (some (.error fault)) (.error fault)

theorem Client.route_proxy (client : Client) (answer : Option ProxyAnswer) :
    client.Route answer (client.proxy answer) := by
  unfold proxy
  cases ignores : client.ignoreProxy with
  | true => exact .ignoring answer ignores
  | false =>
    match answer with
    | none => exact .unprovided
    | some (.ok none) => exact .direct ignores (.inl rfl)
    | some (.ok (some [])) => exact .direct ignores (.inr rfl)
    | some (.ok (some (c :: rest))) => exact .through ignores (List.cons_ne_nil c rest)
    | some (.error fault) => exact .failing ignores

theorem Client.Route.eq_ok_none_iff {found : ProxyAnswer} (route : client.Route answer found) :
    found = .ok none ↔ client.ignoreProxy = true ∨ answer = none ∨ answer = some (.ok none)
      ∨ answer = some (.ok (some [])) := by
  cases route with
  | ignoring answer ignores => exact ⟨fun _ => .inl ignores, fun _ => rfl⟩
  | unprovided => exact ⟨fun _ => .inr (.inl rfl), fun _ => rfl⟩
  | direct ignores empty =>
    refine ⟨fun _ => ?_, fun _ => rfl⟩
    obtain rfl | rfl := empty
    · exact .inr (.inr (.inl rfl))
    · exact .inr (.inr (.inr rfl))
  | through ignores named => simp [ignores, named]
  | failing ignores => simp [ignores]

theorem Client.Route.of_ok_some {proxy : Text} (route : client.Route answer (.ok (some proxy))) :
    answer = some (.ok (some proxy)) := by
  cases route
  rfl

theorem Client.Route.eq_error_iff {found : ProxyAnswer} (route : client.Route answer found)
    (fault : Fault) :
    found = .error fault ↔ client.ignoreProxy = false ∧ answer = some (.error fault) := by
  cases route with
  | ignoring answer ignores => simp [ignores]
  | unprovided => simp
  | direct ignores empty => simp
  | through ignores named => simp
  | failing ignores => simp [ignores]

variable {path : Text} {header : Option (Text × Text)} {session : Call → Reply}

theorem Client.call_get : (client.get answer path header session).call =
    match client.proxy answer with
    | .ok proxy => some (client.call path header proxy)
    | .error _ => none := by
  unfold get
  cases client.proxy answer <;> rfl

theorem Client.askedProvider_get :
    (client.get answer path header session).askedProvider = client.asks answer := by
  unfold get
  cases client.proxy answer <;> rfl

theorem Client.result_get_of_error {fault : Fault} (failing : client.proxy answer = .error fault) :
    (client.get answer path header session).result = .error (wrap fault) := by
  rw [get, failing]

end Client

def Use.baseUrl? : Use → Option Text
  | .setBaseUrl url => some url
  | _ => none

def Use.ignores? : Use → Option Bool
  | .setIgnoreProxy ignores => some ignores
  | _ => none

def Use.isGet : Use → Bool
  | .get _ => true
  | _ => false

namespace Usage

variable {u : Usage}

section Settings

/-- The settings of a client are those that were made last. -/
theorem client_run (u : Usage) (uses : List Use) : (u.run uses).client = { u.client with
    baseUrl := (uses.reverse.findSome? Use.baseUrl?).getD u.client.baseUrl
    ignoreProxy := (uses.reverse.findSome? Use.ignores?).getD u.client.ignoreProxy } := by
  induction uses generalizing u with
  | nil => rfl
  | cons use rest ih =>
    refine (ih (u.step use)).trans ?_
    rw [List.reverse_cons, List.findSome?_append, List.findSome?_append]
    cases use with
    | get get => simp [step, Use.baseUrl?, Use.ignores?]
    | setBaseUrl url => simp [step, Use.baseUrl?, Use.ignores?]
    | setIgnoreProxy ignores => simp [step, Use.baseUrl?, Use.ignores?]

theorem provider_run (u : Usage) (uses : List Use) : (u.run uses).provider = u.provider := by
  induction uses generalizing u with
  | nil => rfl
  | cons use rest ih =>
    refine (ih (u.step use)).trans ?_
    cases use <;> rfl

end Settings

section Exchanges

/-- A get adds one exchange, and nothing takes one back. -/
theorem exchanges_run (u : Usage) (uses : List Use) :
    u.exchanges <+: (u.run uses).exchanges
      ∧ (u.run uses).exchanges.length = u.exchanges.length + uses.countP Use.isGet := by
  induction uses generalizing u with
  | nil => exact ⟨List.prefix_rfl, rfl⟩
  | cons use rest ih =>
    obtain ⟨begins, length⟩ := ih (u.step use)
    cases use with
    | get get =>
      refine ⟨(List.prefix_append u.exchanges _).trans begins, length.trans ?_⟩
      rw [List.countP_cons_of_pos rfl]
      show (u.exchanges ++ [u.exchange get]).length + _ = _
      rw [List.length_append, List.length_singleton]
      omega
    | setBaseUrl url => exact ⟨begins, length⟩
    | setIgnoreProxy ignores => exact ⟨begins, length⟩

/-- What becomes of a get is decided when its turn comes, and stays so. -/
theorem getElem?_exchanges_run (u : Usage) (fresh : u.exchanges = []) (before after : List Use)
    (get : Get) : (u.run (before ++ .get get :: after)).exchanges[before.countP Use.isGet]? =
      some ((u.run before).exchange get) := by
  have length := (u.exchanges_run before).2
  rw [fresh, List.length_nil, Nat.zero_add] at length
  have split : u.run (before ++ .get get :: after) =
      ((u.run before).step (.get get)).run after := List.foldl_append
  obtain ⟨later, same⟩ := (((u.run before).step (.get get)).exchanges_run after).1
  rw [split, ← same, ← length]
  show ((u.run before).exchanges ++ [(u.run before).exchange get] ++ later)[_]? = _
  simp

/-- A get depends on the settings of the client and on what the provider answers to it, and on
nothing else. -/
theorem exchange_eq {u v : Usage} (client : u.client = v.client) (answer : u.answer = v.answer)
    (get : Get) : u.exchange get = v.exchange get := by
  rw [exchange, exchange, client, answer]

/-- Gets leave no trace in the settings. -/
theorem client_run_filter {u v : Usage} (client : u.client = v.client) (uses : List Use) :
    (u.run uses).client = (v.run (uses.filter fun use => !use.isGet)).client := by
  induction uses generalizing u v with
  | nil => exact client
  | cons use rest ih =>
    cases use with
    | get get => exact ih client
    | setBaseUrl url =>
      refine ih (v := v.step (.setBaseUrl url)) ?_
      rw [step, step, client]
    | setIgnoreProxy ignores =>
      refine ih (v := v.step (.setIgnoreProxy ignores)) ?_
      rw [step, step, client]

/-- Nobody was asked for a proxy, and none was used. -/
structure Direct (exchange : Exchange) : Prop where
  unasked : exchange.askedProvider = false
  direct : ∀ call, exchange.call = some call → call.proxies = none

theorem direct_exchange (ignores : u.client.ignoreProxy = true) (get : Get) :
    Direct (u.exchange get) where
  unasked := by
    rw [exchange, Client.askedProvider_get, Client.asks, ignores]
    rfl
  direct := by
    intro call sent
    have none : u.client.proxy u.answer = .ok none := by
      unfold Client.proxy
      rw [ignores]
    rw [exchange, Client.call_get, none] at sent
    obtain rfl := Option.some.inj sent
    rfl

/-- As long as a client ignores proxies and is not told otherwise, all its gets are direct. -/
theorem direct_run {uses : List Use} (ignores : u.client.ignoreProxy = true)
    (before : ∀ exchange ∈ u.exchanges, Direct exchange)
    (still : ∀ use ∈ uses, use.ignores? ≠ some false) :
    (u.run uses).client.ignoreProxy = true ∧
      ∀ exchange ∈ (u.run uses).exchanges, Direct exchange := by
  induction uses generalizing u with
  | nil => exact ⟨ignores, before⟩
  | cons use rest ih =>
    have later : ∀ use ∈ rest, use.ignores? ≠ some false :=
      fun use member => still use (List.mem_cons_of_mem _ member)
    cases use with
    | get get =>
      refine ih (u := u.step (.get get)) ignores ?_ later
      intro exchange member
      obtain old | new := List.mem_append.mp member
      · exact before exchange old
      · rw [List.mem_singleton.mp new]
        exact direct_exchange ignores get
    | setBaseUrl url => exact ih (u := u.step (.setBaseUrl url)) ignores before later
    | setIgnoreProxy ignoring =>
      have told : ignoring = true := by
        cases ignoring with
        | true => rfl
        | false => exact absurd rfl (still _ List.mem_cons_self)
      exact ih (u := u.step (.setIgnoreProxy ignoring)) told before later

end Exchanges

section Law

structure Sent (u : Usage) (get : Get) (call : Call) : Prop where
  url : call.url = u.client.baseUrl ++ get.path
  header : call.header = Client.header get.headerName get.headerValue
  direct : call.proxies = none ↔ u.client.ignoreProxy = true ∨ u.provider = none
    ∨ u.answer = some (.ok none) ∨ u.answer = some (.ok (some []))
  through : ∀ proxies, call.proxies = some proxies → ∃ proxy,
    u.answer = some (.ok (some proxy))
      ∧ proxies = ([("http", proxy), ("https", proxy)] : List (Text × Text))

/-- What holds of a get of a client that began like this, for such a service and with such a
provider, after such uses, when the client has come to the state `u`. -/
structure Routed (client : Client) (service : Text) (provider : Option (Nat → ProxyAnswer))
    (before : List Use) (u : Usage) (get : Get) (exchange : Exchange) : Prop where
  baseUrl : u.client.baseUrl =
    (before.reverse.findSome? Use.baseUrl?).getD ("http://" ++ service)
  ignores : ∃ inOwnNetwork, Locality.isLocal service = .ok inOwnNetwork ∧
    u.client.ignoreProxy = (before.reverse.findSome? Use.ignores?).getD inOwnNetwork
  kept : u.provider = provider
  sent : ∀ call, exchange.call = some call → Sent u get call
  /-- Only a provider that fails keeps the request from being sent. -/
  withheld : exchange.call = none ↔
    u.client.ignoreProxy = false ∧ ∃ fault, u.answer = some (.error fault)
  fails : ∀ fault, u.client.ignoreProxy = false → u.answer = some (.error fault) →
    exchange.result = .error (Client.wrap fault)
  asks : exchange.askedProvider = true ↔ u.client.ignoreProxy = false ∧ provider ≠ none
  /-- It is as if no get had been before it, and the provider had given this answer to it. -/
  alone : exchange = ((⟨client, u.answer.map fun answer _ => answer, []⟩ : Usage).run
    (before.filter fun use => !use.isGet)).exchange get
  /-- The client of a local service goes without provider and proxy until it is told otherwise. -/
  near : Locality.isLocal service = .ok true → (∀ use ∈ before, use.ignores? ≠ some false) →
    Direct exchange ∧ ∀ earlier ∈ u.exchanges, Direct earlier

theorem answer_eq_none_iff : u.answer = none ↔ u.provider = none := Option.map_eq_none_iff

/-- A request that reaches the session is sent as the client is set and as the provider answers. -/
theorem sent_exchange (get : Get) {call : Call} (reaches : (u.exchange get).call = some call) :
    Sent u get call := by
  have route := u.client.route_proxy u.answer
  rw [exchange, Client.call_get] at reaches
  cases found : u.client.proxy u.answer with
  | error fault =>
    rw [found] at reaches
    cases reaches
  | ok proxy =>
    rw [found] at reaches route
    obtain rfl := Option.some.inj reaches
    refine ⟨rfl, rfl, ?_, ?_⟩
    · rw [← answer_eq_none_iff, ← route.eq_ok_none_iff]
      cases proxy <;> simp [Call.proxies, Client.call]
    · intro proxies same
      cases proxy with
      | none => cases same
      | some proxy => exact ⟨proxy, route.of_ok_some, (Option.some.inj same).symm⟩

theorem call_exchange_eq_none_iff (get : Get) : (u.exchange get).call = none ↔
    u.client.ignoreProxy = false ∧ ∃ fault, u.answer = some (.error fault) := by
  have route := u.client.route_proxy u.answer
  rw [exchange, Client.call_get]
  cases found : u.client.proxy u.answer with
  | error fault =>
    obtain ⟨ignores, failing⟩ := (route.eq_error_iff fault).mp found
    exact ⟨fun _ => ⟨ignores, fault, failing⟩, fun _ => rfl⟩
  | ok proxy =>
    refine ⟨nofun, ?_⟩
    rintro ⟨ignores, fault, failing⟩
    have impossible := (route.eq_error_iff fault).mpr ⟨ignores, failing⟩
    rw [found] at impossible
    cases impossible

theorem result_exchange_of_failing (get : Get) {fault : Fault}
    (ignores : u.client.ignoreProxy = false) (failing : u.answer = some (.error fault)) :
    (u.exchange get).result = .error (Client.wrap fault) := by
  have route := u.client.route_proxy u.answer
  exact Client.result_get_of_error ((route.eq_error_iff fault).mpr ⟨ignores, failing⟩)

theorem askedProvider_exchange_iff (get : Get) : (u.exchange get).askedProvider = true ↔
    u.client.ignoreProxy = false ∧ u.provider ≠ none := by
  rw [exchange, Client.askedProvider_get, Client.asks, Bool.and_eq_true, Bool.not_eq_true',
    Option.isSome_iff_ne_none, ne_eq, answer_eq_none_iff]

/-- Of the uses before, only the settings matter to a get. -/
theorem exchange_run_eq (start : Usage) (uses : List Use) (get : Get) :
    (start.run uses).exchange get =
      ((⟨start.client, (start.run uses).answer.map fun answer _ => answer, []⟩ : Usage).run
        (uses.filter fun use => !use.isGet)).exchange get := by
  apply exchange_eq
  · exact client_run_filter (by rfl) uses
  · rw [answer, answer, provider_run, provider_run]
    cases start.provider <;> rfl

/-- Every get in the life of a client is routed by the client's settings at that time and the
provider's answer to it, whatever else is done before and after. -/
theorem routed_run {base client : Client} {service : Text} {log : List LogRecord}
    (made : base.forService service = .ok (client, log)) (provider : Option (Nat → ProxyAnswer))
    (before after : List Use) (get : Get) :
    ∃ exchange, (run ⟨client, provider, []⟩ (before ++ .get get :: after)).exchanges[
        before.countP Use.isGet]? = some exchange
      ∧ Routed client service provider before (run ⟨client, provider, []⟩ before) get exchange := by
  obtain ⟨inOwnNetwork, place, start⟩ := Client.eq_of_forService made
  refine ⟨_, getElem?_exchanges_run _ rfl before after get, ?_⟩
  have kept : (run ⟨client, provider, []⟩ before).provider = provider := provider_run _ before
  constructor
  case baseUrl => rw [client_run, start]
  case ignores => exact ⟨inOwnNetwork, place, by rw [client_run, start]⟩
  case kept => exact kept
  case sent => exact fun call reaches => sent_exchange get reaches
  case withheld => exact call_exchange_eq_none_iff get
  case fails => exact fun fault ignores failing => result_exchange_of_failing get ignores failing
  case asks => rw [askedProvider_exchange_iff, kept]
  case alone => exact exchange_run_eq _ before get
  case near =>
    intro near still
    have ignores : client.ignoreProxy = true := by
      rw [start]
      exact Except.ok.inj (place.symm.trans near)
    obtain ⟨stays, direct⟩ := direct_run (u := ⟨client, provider, []⟩) ignores
      (fun _ member => absurd member List.not_mem_nil) still
    exact ⟨direct_exchange stays get, direct⟩

def tor : Text := "socks5h://127.0.0.1:9050"

/-- A provider with a proxy at first, then a fault, and no proxy from then on. -/
def fading : Nat → ProxyAnswer
  | 0 => .ok (some tor)
  | 1 => .error (.plain .runtime none)
  | _ => .ok (some [])

def unanswered : Get where
  path := "/x"
  session := fun _ => .failure (.plain .runtime none)

/-- Two gets, and another base URL for the third. -/
def moved : List Use := [.get unanswered, .get unanswered, .setBaseUrl "b"]

theorem routed_run_fading :
    ∃ client log, ({} : Client).forService "node.example" = .ok (client, log)
      ∧ ((run ⟨client, some fading, []⟩ (moved ++ [.get unanswered])).exchanges.map fun exchange =>
          exchange.call.map fun call => (call.url, call.proxies)) =
        ([some ("http://node.example/x", some [("http", tor), ("https", tor)]), none,
          some ("b/x", none)] : List (Option (Text × Option (List (Text × Text)))))
      ∧ ∃ exchange, Routed client "node.example" (some fading) moved
        (run ⟨client, some fading, []⟩ moved) unanswered exchange := by
  have made : ({} : Client).forService "node.example" =
      .ok ({ baseUrl := "http://node.example" }, []) := by rfl
  refine ⟨_, _, made, by rfl, ?_⟩
  obtain ⟨exchange, -, routed⟩ := routed_run made (some fading) moved [] unanswered
  exact ⟨exchange, routed⟩

end Law

end Usage

end TransferProof
