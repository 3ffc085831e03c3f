import TransferProof.Text

/-!
# Texts in UTF-8

Reads bytes one at a time. Where they are no UTF-8, U+FFFD stands for a byte that begins no
character, and for all the bytes of a character that breaks off.
-/

namespace TransferProof.Utf8

/-- A character that has begun: its bits so far, how many bytes are missing, and the bounds of the
next one. -/
structure Begun where
  bits : Nat
  missing : Nat
  low : Nat := 0x80
  high : Nat := 0xBF
  deriving DecidableEq, Repr

def replacement : CodePoint := 0xFFFD

/-- The character of several bytes that a byte begins. The bounds exclude surrogates, code points
beyond the last one, and characters that have a shorter form. -/
def lead? (byte : Nat) : Option Begun :=
  if 0xC2 ≤ byte ∧ byte ≤ 0xDF then some { bits := byte - 0xC0, missing := 1 }
  else if byte = 0xE0 then some { bits := 0, missing := 2, low := 0xA0 }
  else if byte = 0xED then some { bits := 0xD, missing := 2, high := 0x9F }
  else if 0xE1 ≤ byte ∧ byte ≤ 0xEF then some { bits := byte - 0xE0, missing := 2 }
  else if byte = 0xF0 then some { bits := 0, missing := 3, low := 0x90 }
  else if byte = 0xF4 then some { bits := 4, missing := 3, high := 0x8F }
  else if 0xF1 ≤ byte ∧ byte ≤ 0xF3 then some { bits := byte - 0xF0, missing := 3 }
  else none

/-- A byte between characters: the text that it gives, and the character that it begins. -/
def first (byte : Nat) : Text × Option Begun :=
  if byte < 0x80 then ([byte], none)
  else match lead? byte with
    | some begun => ([], some begun)
    | none => ([replacement], none)

def next : Option Begun → Nat → Text × Option Begun
  | none, byte => first byte
  | some begun, byte =>
    if begun.low ≤ byte ∧ byte ≤ begun.high then
      let bits := 0x40 * begun.bits + (byte - 0x80)
      if begun.missing ≤ 1 then ([bits], none)
      else ([], some { bits := bits, missing := begun.missing - 1 })
    else
      let (text, again) := first byte
      (replacement :: text, again)

def last : Option Begun → Text
  | none => []
  | some _ => [replacement]

/-- A byte gives at most one code point, and what it begins counts for one that is still to come. -/
theorem length_first_le (byte : Nat) :
    (first byte).1.length + (last (first byte).2).length ≤ 1 := by
  unfold first
  split
  · simp [last]
  · cases lead? byte with
    | none => simp [last]
    | some begun => simp [last]

theorem length_next_le (begun : Option Begun) (byte : Nat) :
    (next begun byte).1.length + (last (next begun byte).2).length ≤ (last begun).length + 1 := by
  have bound := length_first_le byte
  cases begun with
  | none => simpa [next, last] using bound
  | some begun =>
    simp only [next]
    split
    · split <;> simp [last]
    · simp only [List.length_cons, last] at bound ⊢
      omega

end TransferProof.Utf8
