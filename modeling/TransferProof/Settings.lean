import TransferProof.Number.Integer

/-!
# Settings

What the environment says about the service, the proxy, the confirmations and the name under which
requests are made. A variable that is empty counts as not set.
-/

namespace TransferProof

abbrev Environment := List (Text × Text)

structure Settings where
  serviceAddress : Text
  socksProxy : Option Text
  requiredConfirmations : Int
  userAgent : Text
  deriving DecidableEq, Repr

namespace Settings

def version : Text := "0.1.0"

def product : Text := "txproof"

def agent (product : Text) : Text := product ++ "/" ++ version

def defaultService : Text := "xmrblocks.bisq.services"

def defaultConfirmations : Int := 10

def serviceVariable : Text := "XMR_PROOF_SERVICE"

def proxyVariable : Text := "XMR_PROOF_SOCKS5_PROXY"

def confirmationsVariable : Text := "XMR_PROOF_CONFIRMATIONS"

def agentVariable : Text := "XMR_PROOF_USER_AGENT"

def allVariables : List Text :=
  [serviceVariable, proxyVariable, confirmationsVariable, agentVariable]

/-- The value of a variable that is set and not empty. -/
def lookup (environment : Environment) (name : Text) : Option Text :=
  match environment.lookup name with
  | some (c :: rest) => some (c :: rest)
  | _ => none

def load (environment : Environment) : Except IntegerFault Settings :=
  let settings (confirmations : Int) : Settings :=
    { serviceAddress := (lookup environment serviceVariable).getD defaultService
      socksProxy := lookup environment proxyVariable
      requiredConfirmations := confirmations
      userAgent := agent ((lookup environment agentVariable).getD product) }
  match lookup environment confirmationsVariable with
  | none => .ok (settings defaultConfirmations)
  | some count => count.toInt.map settings

end Settings

end TransferProof
