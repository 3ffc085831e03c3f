import TransferProof.Json
import TransferProof.Number.Integer

/-!
# Reading JSON

Reads a text as one JSON document. Beside the standard's grammar the words `NaN`, `Infinity` and
`-Infinity` are numbers, an escaped surrogate may stand alone, and of several fields with one name
the last value counts. A fault says what was expected and where, in code points.
-/

namespace TransferProof.Json

inductive Expectation where
  | value
  | name
  | colon
  | comma
  | ending
  | closingQuote
  | noControl
  | escape
  | hexEscape
  | noByteOrderMark
  deriving DecidableEq, Repr

namespace Expectation

def message : Expectation → Text
  | .value => "Expecting value"
  | .name => "Expecting property name enclosed in double quotes"
  | .colon => "Expecting ':' delimiter"
  | .comma => "Expecting ',' delimiter"
  | .ending => "Extra data"
  | .closingQuote => "Unterminated string starting at"
  | .noControl => "Invalid control character at"
  | .escape => "Invalid \\escape"
  | .hexEscape => "Invalid \\uXXXX escape"
  | .noByteOrderMark => "Unexpected UTF-8 BOM (decode using utf-8-sig)"

end Expectation

/-- Why a text is not read as a document: at a place in it, or for the length of an integer. -/
inductive Fault where
  | malformed (missed : Expectation) (line column position : Nat)
  | tooManyDigits (count : Nat)
  deriving DecidableEq, Repr

namespace Fault

def message : Fault → Text
  | .malformed missed line column position =>
    missed.message ++ ": line " ++ Text.ofNat line ++ " column " ++ Text.ofNat column
      ++ " (char " ++ Text.ofNat position ++ ")"
  | .tooManyDigits count => (IntegerFault.tooManyDigits count).message

end Fault

/-- A fault whose place is counted from the start of the document. -/
inductive Stop where
  | at (missed : Expectation) (position : Nat)
  | tooManyDigits (count : Nat)

/-- What has been read, the place after it, and the text from there on. -/
structure Progress (α : Type) where
  found : α
  position : Nat
  rest : Text

def isJsonBlank (c : CodePoint) : Bool := c == 0x20 || c == 0x09 || c == 0x0A || c == 0x0D

def skipBlank (position : Nat) : Text → Nat × Text
  | [] => (position, [])
  | c :: rest => if isJsonBlank c then skipBlank (position + 1) rest else (position, c :: rest)

def escape? (c : CodePoint) : Option CodePoint :=
  if c = 0x22 ∨ c = 0x5C ∨ c = 0x2F then some c
  else if c = 0x62 then some 0x08
  else if c = 0x66 then some 0x0C
  else if c = 0x6E then some 0x0A
  else if c = 0x72 then some 0x0D
  else if c = 0x74 then some 0x09
  else none

def hexUnit? (a b c d : CodePoint) : Option Nat := do
  let a ← Text.hexValue? a
  let b ← Text.hexValue? b
  let c ← Text.hexValue? c
  let d ← Text.hexValue? d
  return 0x1000 * a + 0x100 * b + 0x10 * c + d

def isHighSurrogate (u : Nat) : Bool := 0xD800 ≤ u && u ≤ 0xDBFF

def isLowSurrogate (u : Nat) : Bool := 0xDC00 ≤ u && u ≤ 0xDFFF

/-- Reads the inside of a string up to its closing quote. `read` holds what has been read, last
first; `high` says that its head is an escaped high surrogate, which an escaped low one completes.
-/
def readString (start position : Nat) (read : Text) (high : Bool) :
    Text → Except Stop (Progress Text)
  | [] => .error (.at .closingQuote start)
  | c :: rest =>
    if c = 0x22 then .ok ⟨read.reverse, position + 1, rest⟩
    else if c = 0x5C then
      match rest with
      | [] => .error (.at .closingQuote start)
      | 0x75 :: a :: b :: c :: d :: e :: more =>
        match hexUnit? a b c d with
        | none => .error (.at .hexEscape (position + 1))
        | some u =>
          if high && isLowSurrogate u then
            let pair := 0x10000 + 0x400 * (read.headD 0 - 0xD800) + (u - 0xDC00)
            readString start (position + 6) (pair :: read.drop 1) false (e :: more)
          else readString start (position + 6) (u :: read) (isHighSurrogate u) (e :: more)
      | 0x75 :: _ => .error (.at .hexEscape (position + 1))
      | letter :: more =>
        match escape? letter with
        | none => .error (.at .escape position)
        | some c => readString start (position + 2) (c :: read) false more
    else if c < 0x20 then .error (.at .noControl position)
    else readString start (position + 1) (c :: read) false rest

/-- The exponent of a number, and how many code points it takes. -/
structure Exponent where
  negative : Bool
  digits : Text
  length : Nat

namespace Exponent

def value (e : Exponent) : Int :=
  if e.negative then -(Text.toNat e.digits : Int) else Text.toNat e.digits

end Exponent

/-- The exponent of a number: a mark, a sign and digits; without digits there is no exponent. -/
def splitExponent (t : Text) : Option Exponent × Text :=
  match t with
  | mark :: tail =>
    let (negative, digits) := Text.splitSign tail
    let signs := if tail.head? = some 0x2B ∨ tail.head? = some 0x2D then 1 else 0
    let run := digits.takeWhile Text.isAsciiDigit
    if (mark = 0x65 ∨ mark = 0x45) ∧ run ≠ [] then
      (some ⟨negative, run, 1 + signs + run.length⟩, digits.dropWhile Text.isAsciiDigit)
    else (none, t)
  | [] => (none, t)

/-- The decimal places of a number: a point and digits; without digits there are none. -/
def splitPlaces (t : Text) : Text × Text :=
  match t with
  | 0x2E :: tail =>
    let run := tail.takeWhile Text.isAsciiDigit
    if run = [] then ([], t) else (run, tail.dropWhile Text.isAsciiDigit)
  | _ => ([], t)

def readNumber (position : Nat) (t : Text) : Except Stop (Progress Json) :=
  let (negative, body) := match t with
    | 0x2D :: rest => (true, rest)
    | _ => (false, t)
  let whole := match body with
    | 0x30 :: _ => [0x30]
    | _ => body.takeWhile Text.isAsciiDigit
  if whole = [] then .error (.at .value position)
  else
    let start := position + (if negative then 1 else 0) + whole.length
    let (places, afterPlaces) := splitPlaces (body.drop whole.length)
    let (power, rest) := splitExponent afterPlaces
    if places = [] ∧ power.isNone then
      if IntegerFault.digitLimit < whole.length then .error (.tooManyDigits whole.length)
      else
        let n := Text.toNat whole
        .ok ⟨.int (if negative then -(n : Int) else n), start, rest⟩
    else
      let after := start + (if places = [] then 0 else 1 + places.length)
        + (power.map Exponent.length).getD 0
      let e : Int := (power.map Exponent.value).getD 0
      .ok ⟨.double (.ofNumeral ⟨negative, Text.toNat (whole ++ places), e - places.length⟩),
        after, rest⟩

def words : List (Text × Json) :=
  [("null", .null), ("true", .bool true), ("false", .bool false), ("NaN", .double .nan),
   ("Infinity", .double (.infinite false)), ("-Infinity", .double (.infinite true))]

def readScalar (position : Nat) (t : Text) : Except Stop (Progress Json) :=
  match words.find? fun w => w.1.isPrefixOf t with
  | some (word, value) => .ok ⟨value, position + word.length, t.drop word.length⟩
  | none => readNumber position t

mutual

/-- Reads a value that begins here. Of two calls in a row at least one takes a code point off the
text, so twice its length bounds the calls. -/
def readValue (fuel position : Nat) (t : Text) : Except Stop (Progress Json) :=
  match fuel with
  | 0 => .error (.at .value position)
  | fuel + 1 =>
    match t with
    | [] => .error (.at .value position)
    | 0x22 :: rest => do
      let s ← readString position (position + 1) [] false rest
      return ⟨.string s.found, s.position, s.rest⟩
    | 0x5B :: rest =>
      match skipBlank (position + 1) rest with
      | (place, 0x5D :: rest) => .ok ⟨.array [], place + 1, rest⟩
      | (place, rest) => readItems fuel place [] rest
    | 0x7B :: rest =>
      match skipBlank (position + 1) rest with
      | (place, 0x7D :: rest) => .ok ⟨.object [], place + 1, rest⟩
      | (place, rest) => readFields fuel place [] rest
    | _ => readScalar position t

/-- Reads the items of an array from the next one to the closing bracket. -/
def readItems (fuel position : Nat) (read : List Json) (t : Text) :
    Except Stop (Progress Json) :=
  match fuel with
  | 0 => .error (.at .value position)
  | fuel + 1 =>
    match readValue fuel position t with
    | .error e => .error e
    | .ok item =>
      match skipBlank item.position item.rest with
      | (place, 0x5D :: rest) => .ok ⟨.array (item.found :: read).reverse, place + 1, rest⟩
      | (place, 0x2C :: rest) =>
        let (place, rest) := skipBlank (place + 1) rest
        readItems fuel place (item.found :: read) rest
      | (place, _) => .error (.at .comma place)

def readFields (fuel position : Nat) (read : List (Text × Json)) (t : Text) :
    Except Stop (Progress Json) :=
  match fuel with
  | 0 => .error (.at .value position)
  | fuel + 1 =>
    match t with
    | 0x22 :: rest =>
      match readString position (position + 1) [] false rest with
      | .error e => .error e
      | .ok name =>
        match skipBlank name.position name.rest with
        | (place, 0x3A :: rest) =>
          let (place, rest) := skipBlank (place + 1) rest
          match readValue fuel place rest with
          | .error e => .error e
          | .ok item =>
            let fields := setField read name.found item.found
            match skipBlank item.position item.rest with
            | (place, 0x7D :: rest) => .ok ⟨.object fields, place + 1, rest⟩
            | (place, 0x2C :: rest) =>
              let (place, rest) := skipBlank (place + 1) rest
              readFields fuel place fields rest
            | (place, _) => .error (.at .comma place)
        | (place, _) => .error (.at .colon place)
    | _ => .error (.at .name position)

end

def readDocument (t : Text) : Except Stop Json :=
  if t.head? = some 0xFEFF then .error (.at .noByteOrderMark 0)
  else
    let (start, body) := skipBlank 0 t
    match readValue (2 * t.length + 1) start body with
    | .error e => .error e
    | .ok document =>
      match skipBlank document.position document.rest with
      | (_, []) => .ok document.found
      | (place, _) => .error (.at .ending place)

/-- The fault at a place of a document: lines end at line feeds, and both counts begin at one. -/
def Stop.toFault (document : Text) : Stop → Fault
  | .at missed position =>
    let before := document.take position
    let line := before.count 0x0A + 1
    let column := (Text.afterLast 0x0A before).length + 1
    .malformed missed line column position
  | .tooManyDigits count => .tooManyDigits count

def ofText (t : Text) : Except Fault Json :=
  match readDocument t with
  | .ok value => .ok value
  | .error stop => .error (stop.toFault t)

end TransferProof.Json
