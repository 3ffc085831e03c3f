import TransferProof.Classifier
import TransferProof.Json.Printer
import TransferProof.Network.Client
import TransferProof.Verifier

/-!
# Polls

A poll is the work of one request, done away from the thread of decisions: ask the service, make
sure that the body is a JSON document, and have it classified. A body that is no document is a
failed transport, so the classifier only ever sees documents.
-/

namespace TransferProof

structure Classification where
  result : PollResult
  log : List LogRecord := []

abbrev BodyClassifier := Text → Classification

namespace BodyClassifier

def standard (request : Request) : BodyClassifier := fun body =>
  let classified := Classifier.classify request body
  ⟨classified.result.map .outcome, classified.log⟩

/-- A classifier that gives one result whatever it sees. -/
def always (result : PollResult) : BodyClassifier := fun _ => ⟨result, []⟩

end BodyClassifier

structure Poll where
  verifier : Verifier
  /-- The call to the service, unless the proxy could not be found out. -/
  call : Option Call
  /-- The body and the document in it, or what went wrong. -/
  received : Except Fault (Text × Json)

namespace Poll

def malformed (fault : Json.Fault) : Fault :=
  let kind : FaultKind := match fault with
    | .malformed _ _ _ _ => .json
    | .tooManyDigits _ => .value
  .transportBy (.plain kind (some fault.message)) (some ("Malformed response: " ++ fault.message))

def read (body : Text) : Except Fault (Text × Json) :=
  match Json.ofText body with
  | .ok document => .ok (body, document)
  | .error fault => .error (malformed fault)

/-- Asks the service about the transfer of a verifier, under the name `agent`. -/
def ask (v : Verifier) (client : Client) (provider : Option ProxyAnswer) (agent : Text)
    (session : Call → Reply) : Poll :=
  let header := Client.header (some "User-Agent") (some agent)
  let exchange := client.get provider v.request.query header session
  { verifier := v
    call := exchange.call
    received := match exchange.result with
      | .ok body => read body
      | .error fault => .error fault }

def opening (v : Verifier) : LogRecord :=
  .info ("Param " ++ v.request.query ++ " for " ++ v.text)

def conclude (poll : Poll) (classify : BodyClassifier) : Classification :=
  match poll.received with
  | .error fault => ⟨.error fault, []⟩
  | .ok (body, document) =>
    let classified := classify body
    let shown : LogRecord :=
      .info ("Response json from " ++ poll.verifier.text ++ "\n" ++ document.pretty)
    let closing : List LogRecord := match classified.result with
      | .ok answer => [.info ("Result from " ++ poll.verifier.text ++ ": " ++ answer.text)]
      | .error _ => []
    ⟨classified.result, shown :: classified.log ++ closing⟩

def run (v : Verifier) (client : Client) (provider : Option ProxyAnswer) (agent : Text)
    (session : Call → Reply) (classify : BodyClassifier) : PollResult :=
  ((ask v client provider agent session).conclude classify).result

end Poll

end TransferProof
