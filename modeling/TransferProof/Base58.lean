import TransferProof.Text

/-!
# Block-wise base 58

A byte string is cut into blocks of eight bytes, and each block is written on its own as eleven
digits in base 58; a shorter last block takes fewer digits. `decode` reads digits back and names the
first fault, `encode` writes bytes.
-/

namespace TransferProof.Base58

/-- The digits by value. -/
def alphabet : Text := "123456789ABCDEFGHJKLMNPQRSTUVWXYZabcdefghijkmnopqrstuvwxyz"

/-- How many digits a block of zero, one, … eight bytes takes. -/
def digitCounts : List Nat := [0, 2, 3, 5, 6, 7, 9, 10, 11]

def fullSize : Nat := 8

def fullDigits : Nat := 11

inductive Fault where
  | empty
  | badLength (length : Nat)
  | badDigit (digit : CodePoint)
  | overflow
  deriving DecidableEq, Repr

def digitValue? (c : CodePoint) : Option Nat := alphabet.idxOf? c

/-- The number that digits spell, read from the left on from `n`; or the first that is no digit. -/
def number (n : Nat) : Text → Except Fault Nat
  | [] => .ok n
  | c :: rest =>
    match digitValue? c with
    | some d => number (58 * n + d) rest
    | none => .error (.badDigit c)

/-- The last `size` bytes of a number, most significant first. -/
def bigEndian : (size : Nat) → (n : Nat) → List UInt8
  | 0, _ => []
  | size + 1, n => bigEndian size (n / 256) ++ [UInt8.ofNat (n % 256)]

/-- The bytes of one block. Its length is checked first, then its digits, then its value. -/
def decodeBlock (block : Text) : Except Fault (List UInt8) :=
  match digitCounts.idxOf? block.length with
  | none => .error (.badLength block.length)
  | some size =>
    match number 0 block with
    | .error e => .error e
    | .ok n => if Nat.pow 256 size ≤ n then .error .overflow else .ok (bigEndian size n)

/-- Cuts into pieces of `size + 1` elements; the last piece may be shorter. -/
def cut {α : Type} (size : Nat) : List α → List (List α)
  | [] => []
  | a :: rest => (a :: rest.take size) :: cut size (rest.drop size)
termination_by xs => xs.length

def decodeBlocks : List Text → Except Fault (List UInt8)
  | [] => .ok []
  | block :: rest =>
    match decodeBlock block with
    | .error e => .error e
    | .ok bytes =>
      match decodeBlocks rest with
      | .error e => .error e
      | .ok more => .ok (bytes ++ more)

def decode (t : Text) : Except Fault (List UInt8) :=
  if t = [] then .error .empty else decodeBlocks (cut (fullDigits - 1) t)

/-- The number that bytes spell, most significant first. -/
def ofBigEndian (bytes : List UInt8) : Nat := bytes.foldl (fun n b => 256 * n + b.toNat) 0

def digits : (count : Nat) → (n : Nat) → Text
  | 0, _ => []
  | count + 1, n => digits count (n / 58) ++ [alphabet.getD (n % 58) 0]

/-- The digits of one block of at most eight bytes. -/
def encodeBlock (bytes : List UInt8) : Text :=
  digits (digitCounts.getD bytes.length 0) (ofBigEndian bytes)

def encode (bytes : List UInt8) : Text := (cut (fullSize - 1) bytes).flatMap encodeBlock

theorem length_bigEndian (size n : Nat) : (bigEndian size n).length = size := by
  induction size generalizing n with
  | zero => rfl
  | succ size ih => simp [bigEndian, ih]

theorem length_digits (count n : Nat) : (digits count n).length = count := by
  induction count generalizing n with
  | zero => rfl
  | succ count ih => simp [digits, ih]

theorem flatten_cut {α : Type} (size : Nat) (xs : List α) : (cut size xs).flatten = xs := by
  fun_induction cut size xs with
  | case1 => rfl
  | case2 a rest ih => simp [ih, List.take_append_drop]

end TransferProof.Base58
