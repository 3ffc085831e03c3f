/-!
# Variable-length numbers

A number in groups of seven bits, lowest first. The high bit of a byte says that another byte
follows, so the first byte below 128 ends the number.
-/

namespace TransferProof.Varint

/-- A number read from the front of some bytes, and how many of them it takes. -/
structure Reading where
  value : Nat
  consumed : Nat
  deriving DecidableEq, Repr

/-- Reads on in the middle of a number. The groups so far make `value`, the next one is put in
`shift` bits higher, and `index` bytes have been read. -/
def readOn (value shift index : Nat) : List UInt8 → Option Reading
  | [] => none
  | byte :: rest =>
    let value := value ||| ((byte.toNat &&& 0x7F) <<< shift)
    if byte.toNat &&& 0x80 = 0 then some ⟨value, index + 1⟩
    else readOn value (shift + 7) (index + 1) rest

/-- The number at the front; `none` if the bytes end before it does. -/
def decode (bytes : List UInt8) : Option Reading := readOn 0 0 0 bytes

/-- The shortest bytes of a number. -/
def encode (n : Nat) : List UInt8 :=
  if n < 128 then [UInt8.ofNat n]
  else UInt8.ofNat (n % 128 + 128) :: encode (n / 128)
termination_by n

end TransferProof.Varint
