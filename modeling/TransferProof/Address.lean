import TransferProof.Base58
import TransferProof.Varint
import TransferProof.Text.Blank
import TransferProof.Text.Quoted

/-!
# Recipient addresses

An address spells, in base 58, the network's number, the public spend key, the public view key, for
an integrated address a payment id, and a checksum. The proof service echoes an address as the
hexadecimal digits of its two keys, so that is what is taken from it; the checksum is not verified.
-/

namespace TransferProof.Address

def keySize : Nat := 32

def checksumSize : Nat := 4

inductive Fault where
  | encoding (fault : Base58.Fault)
  | truncatedNetwork
  | tooShort
  deriving DecidableEq, Repr

namespace Fault

def message : Fault → Text
  | .encoding .empty => "Empty address"
  | .encoding (.badLength length) => "Invalid block length " ++ Text.ofNat length
  | .encoding (.badDigit digit) => "Invalid base58 character " ++ Text.quoted [digit]
  | .encoding .overflow => "Block overflow"
  | .truncatedNetwork => "Truncated varint prefix"
  | .tooShort => "Address too short"

end Fault

/-- The bytes of the spend key and the view key. Blanks around the address do not count. -/
def publicKeys (address : Text) : Except Fault (List UInt8) :=
  match Base58.decode (Text.trim Text.isBlank address) with
  | .error e => .error (.encoding e)
  | .ok bytes =>
    match Varint.decode bytes with
    | none => .error .truncatedNetwork
    | some network =>
      let payload := bytes.drop network.consumed
      if payload.length < 2 * keySize + checksumSize then .error .tooShort
      else .ok (payload.take (2 * keySize))

/-- The echo that the proof service gives of an address: its keys in hexadecimal digits. -/
def echo (address : Text) : Except Fault Text := (publicKeys address).map Text.ofBytes

/-- The address of two keys, with whatever stands after them: a payment id and a checksum. -/
def ofKeys (network : Nat) (spendKey viewKey tail : List UInt8) : Text :=
  Base58.encode (Varint.encode network ++ spendKey ++ viewKey ++ tail)

end TransferProof.Address
