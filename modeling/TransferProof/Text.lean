/-!
# Texts

A text is the sequence of its code points. Surrogate code points count as well: a JSON body can
spell one alone with an escape, and such a text has to be compared, quoted and printed like any
other. Everything the checker reads, says or prints is a `Text`.
-/

namespace TransferProof

/-- A Unicode code point, surrogates included. -/
abbrev CodePoint := Nat

abbrev Text := List CodePoint

namespace Text

def ofString (s : String) : Text := s.toList.map Char.toNat

instance : Coe String Text := ⟨ofString⟩

/-- The character string of a text; a surrogate, which no character is, becomes U+FFFD. -/
def toString (t : Text) : String :=
  String.ofList (t.map fun c => if c.isValidChar then Char.ofNat c else Char.ofNat 0xFFFD)

def isAsciiDigit (c : CodePoint) : Bool := 0x30 ≤ c && c ≤ 0x39

def ofNat (n : Nat) : Text := (Nat.toDigits 10 n).map Char.toNat

def ofInt (i : Int) : Text :=
  if i < 0 then 0x2D :: ofNat i.natAbs else ofNat i.natAbs

def toNat (digits : Text) : Nat := digits.foldl (fun n c => 10 * n + (c - 0x30)) 0

def zeroPad (width : Nat) (t : Text) : Text := List.replicate (width - t.length) 0x30 ++ t

def hexDigit (n : Nat) : CodePoint := if n < 10 then 0x30 + n else 0x57 + n

def hexValue? (c : CodePoint) : Option Nat :=
  if 0x30 ≤ c ∧ c ≤ 0x39 then some (c - 0x30)
  else if 0x41 ≤ c ∧ c ≤ 0x46 then some (c - 0x37)
  else if 0x61 ≤ c ∧ c ≤ 0x66 then some (c - 0x57)
  else none

/-- The last `width` hexadecimal digits of a number, lower case. -/
def hexPadded : (width : Nat) → (n : Nat) → Text
  | 0, _ => []
  | width + 1, n => hexPadded width (n / 16) ++ [hexDigit (n % 16)]

def ofBytes (bytes : List UInt8) : Text := bytes.flatMap fun b => hexPadded 2 b.toNat

def toBytes? : Text → Option (List UInt8)
  | [] => some []
  | hi :: lo :: rest =>
    match hexValue? hi, hexValue? lo, toBytes? rest with
    | some h, some l, some bytes => some (UInt8.ofNat (16 * h + l) :: bytes)
    | _, _, _ => none
  | [_] => none

/-- Removes the code points of a class from both ends. -/
def trim (outer : CodePoint → Bool) (t : Text) : Text :=
  ((t.dropWhile outer).reverse.dropWhile outer).reverse

/-- Splits at the first occurrence of a code point, which belongs to neither part. -/
def splitFirst (sep : CodePoint) (t : Text) : Text × Option Text :=
  match t.dropWhile (· != sep) with
  | [] => (t, none)
  | _ :: rest => (t.takeWhile (· != sep), some rest)

/-- The part after the last occurrence of a code point, or everything if it does not occur. -/
def afterLast (sep : CodePoint) (t : Text) : Text :=
  (t.reverse.takeWhile (· != sep)).reverse

/-- Takes a plus or minus sign off the front; `true` stands for minus. -/
def splitSign : Text → Bool × Text
  | 0x2B :: rest => (false, rest)
  | 0x2D :: rest => (true, rest)
  | t => (false, t)

def joined (sep : Text) : List Text → Text
  | [] => []
  | [t] => t
  | t :: rest => t ++ sep ++ joined sep rest

/-- Cuts at every occurrence of a code point; the pieces hold none of them. -/
def pieces (sep : CodePoint) : Text → List Text
  | [] => [[]]
  | c :: rest =>
    if c == sep then [] :: pieces sep rest
    else match pieces sep rest with
      | [] => [[c]]
      | piece :: others => (c :: piece) :: others

def le (a b : Text) : Bool :=
  match a, b with
  | [], _ => true
  | _ :: _, [] => false
  | x :: a, y :: b => if x == y then le a b else decide (x < y)

theorem length_hexPadded (width n : Nat) : (hexPadded width n).length = width := by
  induction width generalizing n with
  | zero => rfl
  | succ width ih => simp [hexPadded, ih]

theorem length_ofBytes (bytes : List UInt8) : (ofBytes bytes).length = 2 * bytes.length := by
  induction bytes with
  | nil => rfl
  | cons b rest ih =>
    simp only [ofBytes, List.flatMap_cons, List.length_append, List.length_cons,
      length_hexPadded] at ih ⊢
    omega

theorem pieces_ne_nil (sep : CodePoint) (t : Text) : pieces sep t ≠ [] := by
  cases t with
  | nil => simp [pieces]
  | cons c rest =>
    unfold pieces
    split
    · simp
    · split <;> simp

end Text

end TransferProof
