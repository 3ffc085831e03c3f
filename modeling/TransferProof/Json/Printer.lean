import TransferProof.Json
import TransferProof.Number.Shortest

/-!
# Writing JSON

Two layouts of one notation. `pretty` puts every item on a line of its own, indented by two spaces
a level; `compact` writes everything on one line. Only ASCII is written: other code points become
escapes, beyond the basic plane as a surrogate pair.
-/

namespace TransferProof.Json

def unitEscape (u : Nat) : Text := "\\u" ++ Text.hexPadded 4 u

def escapedPoint (c : CodePoint) : Text :=
  if c = 0x22 ∨ c = 0x5C then [0x5C, c]
  else if c = 0x0A then "\\n"
  else if c = 0x0D then "\\r"
  else if c = 0x09 then "\\t"
  else if c = 0x0C then "\\f"
  else if c = 0x08 then "\\b"
  else if 0x20 ≤ c ∧ c ≤ 0x7E then [c]
  else if c ≤ 0xFFFF then unitEscape c
  else
    unitEscape (0xD800 + (c - 0x10000) / 0x400) ++ unitEscape (0xDC00 + (c - 0x10000) % 0x400)

def stringText (t : Text) : Text := 0x22 :: t.flatMap escapedPoint ++ [0x22]

/-- The text of a value that holds no others, and of the empty containers. -/
def scalarText : Json → Text
  | .null => "null"
  | .bool true => "true"
  | .bool false => "false"
  | .int value => Text.ofInt value
  | .double value => value.toText "Infinity" "NaN"
  | .string value => stringText value
  | .array _ => "[]"
  | .object _ => [0x7B, 0x7D]

/-- How the items of a container are set apart. -/
structure Layout where
  /-- What stands before an item at a level of nesting, and before the closing bracket. -/
  lineBreak : Nat → Text
  /-- What stands between a name and its value. -/
  colon : Text
  /-- What stands after an item that is not the last. -/
  comma : Text

mutual

/-- Writes a value in a layout, at a level of nesting. -/
def write (layout : Layout) (level : Nat) : Json → Text
  | .array (item :: rest) =>
    0x5B :: layout.lineBreak (level + 1) ++ write layout (level + 1) item
      ++ writeItems layout (level + 1) rest ++ layout.lineBreak level ++ [0x5D]
  | .object ((name, value) :: rest) =>
    0x7B :: layout.lineBreak (level + 1) ++ stringText name ++ layout.colon
      ++ write layout (level + 1) value
      ++ writeFields layout (level + 1) rest ++ layout.lineBreak level ++ [0x7D]
  | value => scalarText value

def writeItems (layout : Layout) (level : Nat) : List Json → Text
  | [] => []
  | item :: rest =>
    layout.comma ++ layout.lineBreak level ++ write layout level item
      ++ writeItems layout level rest

def writeFields (layout : Layout) (level : Nat) : List (Text × Json) → Text
  | [] => []
  | (name, value) :: rest =>
    layout.comma ++ layout.lineBreak level ++ stringText name ++ layout.colon
      ++ write layout level value ++ writeFields layout level rest

end

/-- Every item on a line of its own, two spaces a level. -/
def pretty (value : Json) : Text :=
  write ⟨fun level => 0x0A :: List.replicate (2 * level) 0x20, ": ", ","⟩ 0 value

/-- Everything on one line. -/
def compact (value : Json) : Text := write ⟨fun _ => [], ": ", ", "⟩ 0 value

end TransferProof.Json
