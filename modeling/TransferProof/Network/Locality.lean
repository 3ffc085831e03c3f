import TransferProof.Network.Authority

/-!
# Local services

Which services are on this machine or in its own network, so that they are asked without a proxy.
-/

namespace TransferProof.Locality

def localName : Text := "localhost"

/-- A host name or literal address of this machine or its own network. -/
def isLocalHost (host : Text) : Bool :=
  host == localName || (0x2E :: localName).isSuffixOf host ||
    match IpAddress.ofText? host with
    | some ip => ip.isLoopback || ip.isPrivate
    | none => false

/-- The service is local, whether or not a port is given. -/
def isLocal (address : Text) : Except Authority.Fault Bool :=
  (Authority.host address).map isLocalHost

end TransferProof.Locality
