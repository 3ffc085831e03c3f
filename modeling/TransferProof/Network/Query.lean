import TransferProof.Text.Utf8

/-!
# Reading a URL

What a service reads in the query of a URL: fields that are cut at ampersands, each with a name and
a value cut at the first equals sign. In both a percent sign with two hexadecimal digits stands for
a byte.
-/

namespace TransferProof.Query

def byte? (high low : CodePoint) : Option Nat :=
  match Text.hexValue? high, Text.hexValue? low with
  | some high, some low => some (16 * high + low)
  | _, _ => none

/-- Decodes what follows bytes that have begun a character, or have not. -/
def decodeFrom (begun : Option Utf8.Begun) : Text → Text
  | [] => Utf8.last begun
  | 0x25 :: high :: low :: rest =>
    match byte? high low with
    | some byte => (Utf8.next begun byte).1 ++ decodeFrom (Utf8.next begun byte).2 rest
    | none => Utf8.last begun ++ 0x25 :: decodeFrom none (high :: low :: rest)
  | c :: rest => Utf8.last begun ++ c :: decodeFrom none rest

def decode (t : Text) : Text := decodeFrom none t

/-- The query: what stands between the first question mark and the first hash after it. -/
def ofUrl (url : Text) : Text :=
  (Text.splitFirst 0x3F (Text.splitFirst 0x23 url).1).2.getD []

def fragment (url : Text) : Text := (Text.splitFirst 0x23 url).2.getD []

def field (piece : Text) : Text × Text :=
  let (name, value) := Text.splitFirst 0x3D piece
  (decode name, decode (value.getD []))

def fields (url : Text) : List (Text × Text) := (Text.pieces 0x26 (ofUrl url)).map field

example : fields "/x?a=%C3%A9%26&b=%E2%82&c=%4#d" =
    ([("a", [0xE9, 0x26]), ("b", [0xFFFD]), ("c", "%4")] : List (Text × Text)) := by decide

end TransferProof.Query
