import TransferProof.Log
import TransferProof.Network.Locality
import TransferProof.Number.Seconds

/-!
# Client of the proof service

One GET at a time. Before each the proxy is asked for anew, unless the client ignores it; failures
of the network layer and error statuses become failed transports that name their cause, every
other fault passes through.
-/

namespace TransferProof

structure Call where
  url : Text
  header : Option (Text × Text)
  /-- The proxy for plain and encrypted requests alike. -/
  proxy : Option Text
  connectTimeout : Seconds
  readTimeout : Seconds
  deriving DecidableEq, Repr

/-- The proxy by the schemes of the requests that go through it. -/
def Call.proxies (call : Call) : Option (List (Text × Text)) :=
  call.proxy.map fun proxy => [("http", proxy), ("https", proxy)]

inductive Reply where
  | response (status : Int) (reason : Option Text) (body : Text)
  | failure (fault : Fault)
  deriving DecidableEq, Repr

namespace Reply

def statusFault (status : Int) (side reason url : Text) : Fault :=
  .plain (.network .status)
    (some (Text.ofInt status ++ side ++ reason ++ " for url: " ++ url))

/-- The body of a response, unless its status is one of the errors from 400 to 599. -/
def body (url : Text) : Reply → Except Fault Text
  | .failure fault => .error fault
  | .response status reason body =>
    let reason := reason.getD "None"
    if 400 ≤ status ∧ status < 500 then
      .error (statusFault status " Client Error: " reason url)
    else if 500 ≤ status ∧ status < 600 then
      .error (statusFault status " Server Error: " reason url)
    else .ok body

end Reply

structure Client where
  baseUrl : Text := []
  ignoreProxy : Bool := false
  connectTimeout : Seconds := 30
  readTimeout : Seconds := 120
  deriving DecidableEq, Repr

/-- What the provider of proxies answers when it is asked: a proxy, none, or a fault. -/
abbrev ProxyAnswer := Except Fault (Option Text)

structure Exchange where
  /-- What the session was asked, if it was. -/
  call : Option Call
  /-- The provider was asked for a proxy. -/
  askedProvider : Bool
  result : Except Fault Text

namespace Client

/-- The client of a service, which ignores the proxy for a local one. -/
def forService (base : Client) (service : Text) :
    Except Authority.Fault (Client × List LogRecord) :=
  match Locality.isLocal service with
  | .error fault => .error fault
  | .ok inOwnNetwork =>
    let client := { base with baseUrl := "http://" ++ service, ignoreProxy := inOwnNetwork }
    .ok (client,
      if inOwnNetwork then [.info ("Ignoring proxy for local net address: " ++ service)] else [])

/-- The provider is asked for each request, if there is one and the client does not ignore it. -/
def asks (client : Client) (provider : Option ProxyAnswer) : Bool :=
  !client.ignoreProxy && provider.isSome

/-- The proxy of a request; an empty one is none. -/
def proxy (client : Client) (provider : Option ProxyAnswer) : ProxyAnswer :=
  match client.ignoreProxy, provider with
  | false, some (.ok (some (c :: rest))) => .ok (some (c :: rest))
  | false, some (.error fault) => .error fault
  | _, _ => .ok none

/-- A failure of the network layer becomes a failed transport. -/
def wrap (fault : Fault) : Fault :=
  if fault.isNetwork then .transportBy fault (some ("HTTP error: " ++ fault.text)) else fault

/-- The header of a request, if name and value are not empty. -/
def header (name value : Option Text) : Option (Text × Text) :=
  match name, value with
  | some (n :: name), some (v :: value) => some (n :: name, v :: value)
  | _, _ => none

def call (client : Client) (path : Text) (header : Option (Text × Text)) (proxy : Option Text) :
    Call :=
  { url := client.baseUrl ++ path
    header := header
    proxy := proxy
    connectTimeout := client.connectTimeout
    readTimeout := client.readTimeout }

/-- Requests a path. `session` is what the session answers to a call. -/
def get (client : Client) (provider : Option ProxyAnswer) (path : Text)
    (header : Option (Text × Text)) (session : Call → Reply) : Exchange :=
  match client.proxy provider with
  | .error fault => ⟨none, client.asks provider, .error (wrap fault)⟩
  | .ok proxy =>
    let call := client.call path header proxy
    let result := match (session call).body call.url with
      | .ok body => .ok body
      | .error fault => .error (wrap fault)
    ⟨some call, client.asks provider, result⟩

end Client

end TransferProof
