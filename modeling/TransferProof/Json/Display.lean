import TransferProof.Json
import TransferProof.Number.Shortest
import TransferProof.Text.Quoted

/-!
# Values as plain text

How a value is shown where a text is expected: a string stands for itself, and inside containers it
is quoted.
-/

namespace TransferProof.Json

mutual

def nestedText : Json → Text
  | .null => "None"
  | .bool true => "True"
  | .bool false => "False"
  | .int value => Text.ofInt value
  | .double value => value.toText "inf" "nan"
  | .string value => Text.quoted value
  | .array items => 0x5B :: nestedItems items ++ [0x5D]
  | .object fields => 0x7B :: nestedFields fields ++ [0x7D]

/-- The items of an array, separated by a comma and a space. -/
def nestedItems : List Json → Text
  | [] => []
  | [item] => nestedText item
  | item :: next :: rest => nestedText item ++ ", " ++ nestedItems (next :: rest)

def nestedFields : List (Text × Json) → Text
  | [] => []
  | [(name, value)] => Text.quoted name ++ ": " ++ nestedText value
  | (name, value) :: next :: rest =>
    Text.quoted name ++ ": " ++ nestedText value ++ ", " ++ nestedFields (next :: rest)

end

def plainText : Json → Text
  | .string value => value
  | value => nestedText value

end TransferProof.Json
