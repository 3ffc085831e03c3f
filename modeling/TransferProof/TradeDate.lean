import TransferProof.Calendar
import TransferProof.Number.Double

/-!
# Trade dates

A trade date is given as seconds since the epoch or as a date in one of the ISO 8601 layouts, with
or without a time of day and a distance from Greenwich. A date without that distance is in
Greenwich time. The result is a double: seconds since the epoch.
-/

namespace TransferProof.TradeDate

/-- A moment as it is written: its day, the time of day, and the distance from Greenwich, all but
the day in microseconds. -/
structure Moment where
  day : Nat
  time : Nat
  distance : Option Int
  deriving DecidableEq, Repr

def micro : Nat := 1000000

def daySeconds : Nat := 86400

def digits? (count : Nat) (t : Text) : Option (Nat × Text) :=
  let run := t.take count
  if run.length = count ∧ run.all Text.isAsciiDigit then some (Text.toNat run, t.drop count)
  else none

/-- Nothing more is written; a null ends a text too. -/
def isEnd (t : Text) : Bool := t.headD 0 == 0

/-- Hours, minutes, seconds and microseconds, and whether nothing follows them. -/
structure Clock where
  hours : Nat := 0
  minutes : Nat := 0
  seconds : Nat := 0
  micros : Nat := 0
  complete : Bool := false

/-- Decimal places of a second: six count, more are cut off. -/
def fraction? (clock : Clock) (t : Text) : Option Clock :=
  let shown := min 6 t.length
  (digits? shown t).map fun (value, rest) =>
    { clock with
      micros := value * Nat.pow 10 (6 - shown)
      complete := isEnd (rest.dropWhile Text.isAsciiDigit) }

/-- Reads the rest of a time of day. `left` says how many of hours, minutes and seconds are still to
come; all are set apart by colons or none is. A point or comma may end it early. -/
def clock? (clock : Clock) (colons : Bool) : (left : Nat) → Text → Option Clock
  | 0, t => fraction? clock t
  | left + 1, t =>
    match digits? 2 t with
    | none => none
    | some (value, rest) =>
      let clock := match left with
        | 2 => { clock with hours := value }
        | 1 => { clock with minutes := value }
        | _ => { clock with seconds := value }
      match rest with
      | [] => some { clock with complete := true }
      | [mark] => if mark < 0x80 then some { clock with complete := mark == 0 } else none
      | mark :: more =>
        let colons := if left = 2 then mark == 0x3A else colons
        if colons && mark == 0x3A then clock? clock colons left more
        else if mark = 0x2E ∨ mark = 0x2C then fraction? clock more
        else if colons then none
        else clock? clock colons left rest

def Clock.total (clock : Clock) : Nat :=
  ((clock.hours * 60 + clock.minutes) * 60 + clock.seconds) * micro + clock.micros

/-- A distance from Greenwich: `Z`, or a sign with hours and more, less than a day. A distance of
less than a second is none. -/
def distance? (sign : CodePoint) (t : Text) : Option Int :=
  if sign = 0x5A then if isEnd t then some 0 else none
  else
    match clock? {} false 3 t with
    | none => none
    | some clock =>
      if clock.complete ∧ clock.total < daySeconds * micro then
        if clock.total < micro then some 0
        else some (if sign = 0x2D then -(clock.total : Int) else clock.total)
      else none

def time? (t : Text) : Option (Nat × Option Int) :=
  let isSign := fun c => c == 0x2B || c == 0x2D || c == 0x5A
  match clock? {} false 3 (t.takeWhile (!isSign ·)) with
  | none => none
  | some clock =>
    if clock.hours < 24 ∧ clock.minutes < 60 ∧ clock.seconds < 60 then
      match t.dropWhile (!isSign ·) with
      | [] => if clock.complete then some (clock.total, none) else none
      | sign :: rest => (distance? sign rest).map fun d => (clock.total, some d)
    else none

/-- How many code points the date at the front takes. Where a week is followed by digits, an even
number of them belongs to the time alone. -/
def dateLength (t : Text) : Nat :=
  let at5 := (t.drop 4).headD 0
  if t.length = 7 then 7
  else if at5 = 0x2D then
    if (t.drop 5).head? = some 0x57 then
      if (t.drop 8).head? = some 0x2D then
        if ((t.drop 10).head?.map Text.isAsciiDigit).getD false then 8 else 10
      else 8
    else 10
  else if at5 = 0x57 then
    let run := ((t.drop 7).takeWhile Text.isAsciiDigit).length
    if run < 2 then 7 + run
    else if run % 2 = 1 then 7 else 8
  else 8

/-- The day of a date with months, or of one with weeks, whose day of the week may be left out. -/
def date? (t : Text) : Option Nat := do
  let (year, rest) ← digits? 4 t
  let (dashed, rest) := match rest with
    | 0x2D :: rest => (true, rest)
    | _ => (false, rest)
  let afterDash (t : Text) : Option Text :=
    match dashed, t with
    | false, t => some t
    | true, 0x2D :: t => some t
    | true, _ => none
  match rest with
  | 0x57 :: rest => do
    let (week, rest) ← digits? 2 rest
    if rest = [] then Calendar.dayOfWeek? year week 1
    else do
      let (day, _) ← digits? 1 (← afterDash rest)
      Calendar.dayOfWeek? year week day
  | rest => do
    let (month, rest) ← digits? 2 rest
    let (day, _) ← digits? 2 (← afterDash rest)
    Calendar.dayOfMonth? year month day

/-- A text that holds surrogates is no date, except that one may stand between date and time. -/
def isWhole (t : Text) : Bool := t.all fun c => c < 0xD800 || 0xDFFF < c

/-- Reads a date, and after any one code point a time. -/
def moment? (t : Text) : Option Moment :=
  let length := dateLength t
  let (date, rest) := (t.take length, t.drop length)
  match date? date, rest with
  | none, _ => none
  | some day, [] => some ⟨day, 0, none⟩
  | some day, _ :: time =>
    if isWhole time then (time? time).map fun (time, distance) => ⟨day, time, distance⟩
    else none

/-- Seconds since the epoch. Where the distance from Greenwich is given, microseconds are divided
once; else whole seconds and the fraction are rounded one by one, and the first day has no value
since the day before it is looked at too. -/
def Moment.seconds? (m : Moment) : Option Double :=
  let days : Int := (m.day : Int) - Calendar.epochDay
  match m.distance with
  | some distance =>
    let total := days * daySeconds * micro + m.time - distance
    some (Double.ofRatio (total < 0) total.natAbs micro)
  | none =>
    if m.day = 1 then none
    else
      let whole := days * daySeconds + (m.time / micro : Nat)
      let fraction := Double.ofRatio false (m.time % micro) micro
      match fraction with
      | .finite _ mantissa exponent =>
        let den : Nat := Nat.pow 2 (-exponent).toNat
        let total := whole * (den : Int) + (mantissa : Int)
        some (Double.ofRatio (total < 0) total.natAbs den)
      | _ => none

/-- Reads a trade date; without one it is now. -/
def ofText (now : Double) (t : Text) : Option Double :=
  if t = [] then some now
  else match Double.ofText? t with
    | some x => some x
    | none => (moment? t).bind Moment.seconds?

end TransferProof.TradeDate
