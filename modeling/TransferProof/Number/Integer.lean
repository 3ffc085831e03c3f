import TransferProof.Text.Blank
import TransferProof.Text.Digit
import TransferProof.Text.Quoted

/-!
# Integers in texts

Reads a text as an integer: blanks around it, one sign, and decimal digits of any script with
single underscores between them. A text of more than `digitLimit` digits is refused before the
rest of it is looked at.
-/

namespace TransferProof

inductive IntegerFault where
  | malformed (text : Text)
  | tooManyDigits (count : Nat)
  deriving DecidableEq, Repr

namespace IntegerFault

def digitLimit : Nat := 4300

/-- The words for a refused text; a long text is shown by its first 200 code points. -/
def message : IntegerFault → Text
  | .malformed text =>
    "invalid literal for int() with base 10: " ++ (Text.quoted text).take 200
  | .tooManyDigits count =>
    "Exceeds the limit (" ++ Text.ofNat digitLimit
      ++ " digits) for integer string conversion: value has " ++ Text.ofNat count
      ++ " digits; use sys.set_int_max_str_digits() to increase the limit"

end IntegerFault

namespace Text

/-- Digits with single underscores between them, up to the first code point that is neither. -/
structure DigitRun where
  value : Nat
  count : Nat
  rest : Text

/-- Reads on from digits already read; `none` if an underscore does not stand between two digits. -/
def digitRun (value count : Nat) : Text → Option DigitRun
  | [] => some ⟨value, count, []⟩
  | 0x5F :: c :: rest =>
    match digitValue? c with
    | some d => digitRun (10 * value + d) (count + 1) rest
    | none => none
  | c :: rest =>
    if c = 0x5F then none
    else match digitValue? c with
      | some d => digitRun (10 * value + d) (count + 1) rest
      | none => some ⟨value, count, c :: rest⟩

def toInt (t : Text) : Except IntegerFault Int :=
  let (negative, body) := splitSign (t.dropWhile isNumberBlank)
  match body with
  | [] => .error (.malformed t)
  | c :: rest =>
    match digitValue? c with
    | none => .error (.malformed t)
    | some d =>
      match digitRun d 1 rest with
      | none => .error (.malformed t)
      | some run =>
        if IntegerFault.digitLimit < run.count then .error (.tooManyDigits run.count)
        else if run.rest.all isNumberBlank then
          .ok (if negative then -(run.value : Int) else run.value)
        else .error (.malformed t)

example : toInt " +1_000 " = .ok 1000 := rfl

example : toInt "1__0" = .error (.malformed "1__0") := rfl

end Text

end TransferProof
