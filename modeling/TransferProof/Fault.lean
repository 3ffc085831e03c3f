import TransferProof.Text.Quoted

/-!
# Faults

What goes wrong while a proof is requested or a response is read. A fault has a kind, an optional
message and, for a failed transport, the fault that caused it. Users see a fault in two forms:
`text` is its message, `shown` is its kind with the quoted message.
-/

namespace TransferProof

inductive NetworkFault where
  | request
  | connection
  | status
  | timeout
  | connectTimeout
  | readTimeout
  | tooManyRedirects
  | proxy
  | tls
  | invalidUrl
  | chunkedEncoding
  /-- A failure that is known only by its name. -/
  | other (name : Text)
  deriving DecidableEq, Repr

namespace NetworkFault

def name : NetworkFault → Text
  | .request => "RequestException"
  | .connection => "ConnectionError"
  | .status => "HTTPError"
  | .timeout => "Timeout"
  | .connectTimeout => "ConnectTimeout"
  | .readTimeout => "ReadTimeout"
  | .tooManyRedirects => "TooManyRedirects"
  | .proxy => "ProxyError"
  | .tls => "SSLError"
  | .invalidUrl => "InvalidURL"
  | .chunkedEncoding => "ChunkedEncodingError"
  | .other name => name

/-- All failures of the network layer that have a kind of their own. -/
def all : List NetworkFault :=
  [.request, .connection, .status, .timeout, .connectTimeout, .readTimeout, .tooManyRedirects,
   .proxy, .tls, .invalidUrl, .chunkedEncoding]

end NetworkFault

/-- Kinds of faults other than a failed transport. -/
inductive FaultKind where
  | attribute
  | type
  | value
  | key
  | overflow
  | runtime
  | json
  | address
  | network (failure : NetworkFault)
  /-- A kind that is known only by its name. -/
  | other (name : Text)
  deriving DecidableEq, Repr

namespace FaultKind

def name : FaultKind → Text
  | .attribute => "AttributeError"
  | .type => "TypeError"
  | .value => "ValueError"
  | .key => "KeyError"
  | .overflow => "OverflowError"
  | .runtime => "RuntimeError"
  | .json => "JSONDecodeError"
  | .address => "CryptoNoteError"
  | .network failure => failure.name
  | .other name => name

/-- All kinds that are not known by their name alone. -/
def all : List FaultKind :=
  [.attribute, .type, .value, .key, .overflow, .runtime, .json, .address]
    ++ NetworkFault.all.map .network

def ofName? (name : Text) : Option FaultKind := all.find? fun kind => kind.name == name

end FaultKind

inductive Fault where
  | plain (kind : FaultKind) (message : Option Text)
  /-- A failed transport of unknown cause. -/
  | transport (message : Option Text)
  /-- A failed transport and what made it fail. -/
  | transportBy (cause : Fault) (message : Option Text)
  deriving DecidableEq, Repr

namespace Fault

def name : Fault → Text
  | .plain kind _ => kind.name
  | .transport _ => "TransportError"
  | .transportBy _ _ => "TransportError"

def message? : Fault → Option Text
  | .plain _ message => message
  | .transport message => message
  | .transportBy _ message => message

def cause? : Fault → Option Fault
  | .transportBy cause _ => some cause
  | _ => none

/-- The fault to report: what made a transport fail if that is known, else the fault itself. -/
def origin (fault : Fault) : Fault := fault.cause?.getD fault

/-- The message by itself; a missing key is quoted. -/
def text : Fault → Text
  | .plain .key (some message) => Text.quoted message
  | fault => fault.message?.getD []

/-- The kind with the quoted message in parentheses. -/
def shown (fault : Fault) : Text :=
  fault.name ++ "(" ++ (match fault.message? with
    | some message => Text.quoted message
    | none => []) ++ ")"

def isNetwork : Fault → Bool
  | .plain (.network _) _ => true
  | _ => false

end Fault

end TransferProof
