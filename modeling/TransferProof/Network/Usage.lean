import TransferProof.Network.Client

/-!
# Clients in use

The life of a client: one get after another, and between them the base URL and whether the proxy is
ignored may be set. The provider of proxies may answer differently each time, and so may the
session.
-/

namespace TransferProof

structure Get where
  path : Text
  headerName : Option Text := none
  headerValue : Option Text := none
  session : Call → Reply

inductive Use where
  | get (get : Get)
  | setBaseUrl (url : Text)
  | setIgnoreProxy (ignores : Bool)

structure Usage where
  client : Client
  /-- What the provider answers to each of the questions, if there is a provider. -/
  provider : Option (Nat → ProxyAnswer)
  /-- What has become of the gets, oldest first. -/
  exchanges : List Exchange := []

namespace Usage

def questions (u : Usage) : Nat := u.exchanges.countP Exchange.askedProvider

def answer (u : Usage) : Option ProxyAnswer := u.provider.map fun answers => answers u.questions

def exchange (u : Usage) (get : Get) : Exchange :=
  u.client.get u.answer get.path (Client.header get.headerName get.headerValue) get.session

def step (u : Usage) : Use → Usage
  | .get get => { u with exchanges := u.exchanges ++ [u.exchange get] }
  | .setBaseUrl url => { u with client := { u.client with baseUrl := url } }
  | .setIgnoreProxy ignores => { u with client := { u.client with ignoreProxy := ignores } }

def run (u : Usage) (uses : List Use) : Usage := uses.foldl step u

end Usage

end TransferProof
