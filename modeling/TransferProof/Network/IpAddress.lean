import TransferProof.Text

/-!
# Internet addresses

Strict readers for dotted quads and for the hexadecimal notation of the sixth version, and the
registered blocks of addresses that are not reachable from the whole internet. Main statement here:
a block holds exactly the numbers between its first and its last address.
-/

namespace TransferProof

/-- An internet address of either version, as a number of 32 or 128 bits. -/
inductive IpAddress where
  | v4 (number : Nat)
  | v6 (number : Nat)
  deriving DecidableEq, Repr

namespace IpAddress

/-- A block of addresses that agree in all but the lowest `freeBits` bits. -/
structure Block where
  base : Nat
  freeBits : Nat

def Block.contains (block : Block) (number : Nat) : Bool :=
  number / Nat.pow 2 block.freeBits == block.base / Nat.pow 2 block.freeBits

def quad (a b c d : Nat) : Nat := ((a * 256 + b) * 256 + c) * 256 + d

/-- The block of the fourth version that keeps so many leading bits. -/
def block4 (a b c d kept : Nat) : Block := ⟨quad a b c d, 32 - kept⟩

def groups (hextets : List Nat) : Nat := hextets.foldl (fun n h => n * 65536 + h) 0

/-- The block of the sixth version that begins with these groups and keeps so many leading bits. -/
def block6 (hextets : List Nat) (kept : Nat) : Block :=
  ⟨groups hextets * Nat.pow 65536 (8 - hextets.length), 128 - kept⟩

/-- Blocks of the fourth version that are not globally reachable. -/
def privateBlocks4 : List Block :=
  [block4 0 0 0 0 8, block4 10 0 0 0 8, block4 127 0 0 0 8, block4 169 254 0 0 16,
   block4 172 16 0 0 12, block4 192 0 0 0 24, block4 192 0 0 170 31, block4 192 0 2 0 24,
   block4 192 168 0 0 16, block4 198 18 0 0 15, block4 198 51 100 0 24, block4 203 0 113 0 24,
   block4 240 0 0 0 4, block4 255 255 255 255 32]

/-- Globally reachable blocks inside `privateBlocks4`. -/
def publicBlocks4 : List Block := [block4 192 0 0 9 32, block4 192 0 0 10 32]

def loopback4 : Block := block4 127 0 0 0 8

def privateBlocks6 : List Block :=
  [block6 [0, 0, 0, 0, 0, 0, 0, 1] 128, block6 [] 128, block6 [0, 0, 0, 0, 0, 0xFFFF] 96,
   block6 [0x64, 0xFF9B, 1] 48, block6 [0x100] 64, block6 [0x2001] 23, block6 [0x2001, 0xDB8] 32,
   block6 [0x2002] 16, block6 [0xFC00] 7, block6 [0xFE80] 10]

def publicBlocks6 : List Block :=
  [block6 [0x2001, 1, 0, 0, 0, 0, 0, 1] 128, block6 [0x2001, 1, 0, 0, 0, 0, 0, 2] 128,
   block6 [0x2001, 3] 32, block6 [0x2001, 4, 0x112] 48, block6 [0x2001, 0x20] 28,
   block6 [0x2001, 0x30] 28]

def inBlocks (inside outside : List Block) (number : Nat) : Bool :=
  inside.any (·.contains number) && !outside.any (·.contains number)

def isPrivate4 (number : Nat) : Bool := inBlocks privateBlocks4 publicBlocks4 number

/-- Not globally reachable. An address of the sixth version that stands for one of the fourth is
judged as that one. -/
def isPrivate : IpAddress → Bool
  | .v4 number => isPrivate4 number
  | .v6 number =>
    if number / Nat.pow 2 32 = 0xFFFF then isPrivate4 (number % Nat.pow 2 32)
    else inBlocks privateBlocks6 publicBlocks6 number

def isLoopback : IpAddress → Bool
  | .v4 number => loopback4.contains number
  | .v6 number => number == 1

/-- One to three digits up to 255, without a zero in front. -/
def octet? (t : Text) : Option Nat :=
  if t ≠ [] ∧ t.all Text.isAsciiDigit ∧ t.length ≤ 3 ∧ (t = [0x30] ∨ t.head? ≠ some 0x30)
      ∧ Text.toNat t ≤ 255 then
    some (Text.toNat t)
  else none

def quad? (t : Text) : Option Nat :=
  match Text.pieces 0x2E t with
  | [a, b, c, d] => do
    let a ← octet? a
    let b ← octet? b
    let c ← octet? c
    let d ← octet? d
    return quad a b c d
  | _ => none

def hextet? (t : Text) : Option Nat :=
  if t = [] ∨ 4 < t.length then none
  else t.foldl (fun n c => n.bind fun n => (Text.hexValue? c).map (16 * n + ·)) (some 0)

def hextets? (parts : List Text) : Option (List Nat) := parts.mapM hextet?

/-- Parts between colons, where a dotted quad at the end counts as two groups. -/
def expandQuad? (parts : List Text) : Option (List Text) :=
  match parts.getLast? with
  | none => none
  | some last =>
    if last.contains 0x2E then
      (quad? last).map fun n =>
        parts.dropLast ++ [Text.hexPadded 4 (n / 65536), Text.hexPadded 4 (n % 65536)]
    else some parts

/-- Eight groups; or fewer with one gap, an empty part that is neither first nor last. An empty part
at either end is good only beside the gap. -/
def groupsOfParts? (parts : List Text) : Option Nat :=
  let inner := (parts.drop 1).dropLast
  match inner.findIdx? (·.isEmpty) with
  | none => if parts.length = 8 then (hextets? parts).map groups else none
  | some i =>
    if (inner.drop (i + 1)).any (·.isEmpty) then none
    else
      let high := parts.take (i + 1)
      let low := parts.drop (i + 2)
      let high := if high = [[]] then [] else high
      let low := if low = [[]] then [] else low
      if 8 ≤ high.length + low.length then none
      else
        match hextets? high, hextets? low with
        | some high, some low =>
          some (groups (high ++ List.replicate (8 - (high.length + low.length)) 0 ++ low))
        | _, _ => none

/-- Groups between colons, with an optional zone after a percent sign. -/
def hexadecimal? (t : Text) : Option Nat :=
  let (body, zone) := Text.splitFirst 0x25 t
  if zone = some [] ∨ (zone.getD []).contains 0x25 then none
  else
    let parts := Text.pieces 0x3A body
    if parts.length < 3 then none
    else
      match expandQuad? parts with
      | none => none
      | some parts => if 9 < parts.length then none else groupsOfParts? parts

def ofText? (t : Text) : Option IpAddress :=
  match quad? t with
  | some number => some (.v4 number)
  | none => (hexadecimal? t).map .v6

example : ofText? "::1" = some (.v6 1) := by decide +kernel

example : ofText? "::ffff:10.0.0.1" = some (.v6 0xFFFF0A000001) := by decide +kernel

example : ofText? "1::2::3" = none := by decide +kernel

example : ofText? "127.0.0.01" = none := by decide +kernel

end IpAddress

end TransferProof
