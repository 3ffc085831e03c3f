import TransferProof.Number.Double

/-!
# JSON values

The values of a JSON document. A number without fraction and exponent is an integer of any size;
every other number is a double, so infinities and NaN are values too. The fields of an object keep
their order and have distinct names.
-/

namespace TransferProof

inductive Json where
  | null
  | bool (value : Bool)
  | int (value : Int)
  | double (value : Double)
  | string (value : Text)
  | array (items : List Json)
  | object (fields : List (Text × Json))
  deriving Repr

namespace Json

section Equality

mutual

/-- Whether two values agree in every part. -/
def same : Json → Json → Bool
  | .null, .null => true
  | .bool a, .bool b => a == b
  | .int a, .int b => a == b
  | .double a, .double b => a == b
  | .string a, .string b => a == b
  | .array items, .array others => sameItems items others
  | .object fields, .object others => sameFields fields others
  | _, _ => false

def sameItems : List Json → List Json → Bool
  | [], [] => true
  | item :: rest, other :: others => same item other && sameItems rest others
  | _, _ => false

def sameFields : List (Text × Json) → List (Text × Json) → Bool
  | [], [] => true
  | (name, value) :: rest, (otherName, other) :: others =>
    name == otherName && same value other && sameFields rest others
  | _, _ => false

end

mutual

theorem same_iff : (a b : Json) → (same a b = true ↔ a = b)
  | .null, b | .bool _, b | .int _, b | .double _, b | .string _, b => by
    cases b <;> simp [same]
  | .array items, b => by
    cases b <;> simp [same, sameItems_iff items]
  | .object fields, b => by
    cases b <;> simp [same, sameFields_iff fields]

theorem sameItems_iff : (items others : List Json) →
    (sameItems items others = true ↔ items = others)
  | [], others => by cases others <;> simp [sameItems]
  | item :: rest, others => by
    cases others <;> simp [sameItems, same_iff item, sameItems_iff rest]

theorem sameFields_iff : (fields others : List (Text × Json)) →
    (sameFields fields others = true ↔ fields = others)
  | [], others => by cases others <;> simp [sameFields]
  | (name, value) :: rest, others => by
    cases others <;>
      simp [sameFields, Prod.ext_iff, same_iff value, sameFields_iff rest, and_assoc]

end

instance : DecidableEq Json := fun a b => decidable_of_iff (same a b = true) (same_iff a b)

end Equality

/-- The value of a field; an absent field and one that holds `null` are told apart. -/
def field? (fields : List (Text × Json)) (name : Text) : Option Json :=
  (fields.find? fun f => f.1 == name).map (·.2)

/-- The value of a field, where an absent field counts as `null`. -/
def field (fields : List (Text × Json)) (name : Text) : Json := (field? fields name).getD .null

/-- Sets a field: a known name keeps its place and takes the new value, a new name goes last. -/
def setField (fields : List (Text × Json)) (name : Text) (value : Json) : List (Text × Json) :=
  if fields.any fun f => f.1 == name then
    fields.map fun f => if f.1 == name then (f.1, value) else f
  else fields ++ [(name, value)]

/-- Zero, the empty text and the empty containers count as nothing, like `null` and `false`. -/
def isEmpty : Json → Bool
  | .null => true
  | .bool value => !value
  | .int value => value == 0
  | .double value => value.isZero
  | .string value => value.isEmpty
  | .array items => items.isEmpty
  | .object fields => fields.isEmpty

/-- The kind of a value as messages name it. -/
def kindName : Json → Text
  | .null => "NoneType"
  | .bool _ => "bool"
  | .int _ => "int"
  | .double _ => "float"
  | .string _ => "str"
  | .array _ => "list"
  | .object _ => "dict"

end Json

end TransferProof
