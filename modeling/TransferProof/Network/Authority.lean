import TransferProof.Network.IpAddress
import TransferProof.Text.Delimiter
import TransferProof.Text.Lower
import TransferProof.Text.Quoted

/-!
# Hosts of service addresses

A service address is the authority part of a web address: an optional user before the last at-sign,
a host, and an optional port after a colon. Brackets around the host hold an address of the sixth
version. Tabs and line ends do not count, and a slash, a question mark or a hash ends the authority.
-/

namespace TransferProof.Authority

inductive Fault where
  | unbalancedBrackets
  | badFutureAddress
  | noAddress (host : Text)
  | quadInBrackets
  | disguised (authority : Text)
  deriving DecidableEq, Repr

namespace Fault

def message : Fault → Text
  | .unbalancedBrackets => "Invalid IPv6 URL"
  | .badFutureAddress => "IPvFuture address is invalid"
  | .noAddress host => Text.quoted host ++ " does not appear to be an IPv4 or IPv6 address"
  | .quadInBrackets => "An IPv4 address cannot be in brackets"
  | .disguised authority =>
    "netloc '" ++ authority ++ "' contains invalid characters under NFKC normalization"

end Fault

/-- The authority at the front of an address, without tabs and line ends. -/
def ofAddress (address : Text) : Text :=
  (address.filter fun c => c != 0x09 && c != 0x0A && c != 0x0D).takeWhile fun c =>
    c != 0x2F && c != 0x3F && c != 0x23

/-- The form of addresses to come: `v`, hexadecimal digits, a point, and something after it. -/
def isFuture (t : Text) : Bool :=
  match t with
  | 0x76 :: rest =>
    let isHex := fun c => (Text.hexValue? c).isSome
    !(rest.takeWhile isHex).isEmpty &&
      match rest.dropWhile isHex with
      | 0x2E :: _ :: _ => true
      | _ => false
  | _ => false

/-- Host and port: what stands after the last at-sign. -/
def place (authority : Text) : Text := Text.afterLast 0x40 authority

/-- The host with what stands after its closing bracket, for a place that opens one. -/
def bracketed (place : Text) : Text × Text :=
  let (host, after) := Text.splitFirst 0x5D ((Text.splitFirst 0x5B place).2.getD [])
  (host, after.getD [])

def rawHost (place : Text) : Text :=
  if place.contains 0x5B then (bracketed place).1 else (Text.splitFirst 0x3A place).1

/-- What may stand in brackets: an address of the sixth version or of one to come. -/
def checkBracketedHost (host : Text) : Except Fault Unit :=
  if host.head? = some 0x76 then
    if isFuture host then .ok () else .error .badFutureAddress
  else match IpAddress.ofText? host with
    | none => .error (.noAddress host)
    | some (.v4 _) => .error .quadInBrackets
    | some (.v6 _) => .ok ()

/-- Checks the brackets of an authority. They enclose the whole host, and only a port may follow. An
authority that has brackets elsewhere still needs a host that could stand in them. -/
def checkBrackets (authority : Text) : Except Fault Unit :=
  match authority.contains 0x5B, authority.contains 0x5D with
  | false, false => .ok ()
  | true, true =>
    let place := place authority
    let after := (bracketed place).2
    if place.contains 0x5B ∧ (place.head? ≠ some 0x5B ∨ (after ≠ [] ∧ after.head? ≠ some 0x3A)) then
      .error .unbalancedBrackets
    else checkBracketedHost (rawHost place)
  | _, _ => .error .unbalancedBrackets

/-- The host of an authority, lower-cased up to its zone. -/
def hostName (authority : Text) : Text :=
  match Text.splitFirst 0x25 (rawHost (place authority)) with
  | (name, some zone) => Text.lower name ++ 0x25 :: zone
  | (name, none) => Text.lower name

def host (address : Text) : Except Fault Text :=
  let authority := ofAddress address
  match checkBrackets authority with
  | .error e => .error e
  | .ok () =>
    if Text.hidesDelimiter authority then .error (.disguised authority)
    else .ok (hostName authority)

end TransferProof.Authority
