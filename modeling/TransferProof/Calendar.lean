/-!
# Calendar

Days of the proleptic Gregorian calendar, counted from the first of January of the year 1, which is
day 1 and a Monday. A date can be given by month and day or by week and day of the week.
-/

namespace TransferProof.Calendar

def isLeap (year : Nat) : Bool := year % 4 == 0 && (year % 100 != 0 || year % 400 == 0)

def daysInMonth (year month : Nat) : Nat :=
  if month = 2 then (if isLeap year then 29 else 28)
  else if month = 4 ∨ month = 6 ∨ month = 9 ∨ month = 11 then 30
  else 31

def daysBeforeYear (year : Nat) : Nat :=
  let y := year - 1
  365 * y + y / 4 - y / 100 + y / 400

def daysBeforeMonth (year month : Nat) : Nat :=
  (List.range (month - 1)).foldl (fun days m => days + daysInMonth year (m + 1)) 0

def lastYear : Nat := 9999

def lastDay : Nat := daysBeforeYear (lastYear + 1)

/-- The day of the epoch, the first of January 1970. -/
def epochDay : Nat := daysBeforeYear 1970 + 1

/-- The day of a date given by month and day; `none` if there is no such date. -/
def dayOfMonth? (year month day : Nat) : Option Nat :=
  if 1 ≤ year ∧ year ≤ lastYear ∧ 1 ≤ month ∧ month ≤ 12 ∧ 1 ≤ day ∧ day ≤ daysInMonth year month
  then some (daysBeforeYear year + daysBeforeMonth year month + day)
  else none

/-- The weekday of a day, Monday being 0. -/
def weekday (day : Nat) : Nat := (day + 6) % 7

/-- The Monday of a year's first week, the week that holds its first Thursday. -/
def firstMonday (year : Nat) : Int :=
  let newYear := daysBeforeYear year + 1
  let monday : Int := (newYear : Int) - weekday newYear
  if 3 < weekday newYear then monday + 7 else monday

/-- Weeks in a year: 53 if it begins with a Thursday, or with a Wednesday and is a leap year. -/
def weeksInYear (year : Nat) : Nat :=
  let first := weekday (daysBeforeYear year + 1)
  if first = 3 ∨ (first = 2 ∧ isLeap year) then 53 else 52

/-- The day of a date given by week and day of the week; `none` if there is no such date. -/
def dayOfWeek? (year week day : Nat) : Option Nat :=
  if 1 ≤ year ∧ 1 ≤ week ∧ week ≤ weeksInYear year ∧ 1 ≤ day ∧ day ≤ 7 then
    let found := firstMonday year + (7 * (week - 1) + (day - 1) : Nat)
    if 1 ≤ found ∧ found ≤ lastDay then some found.toNat else none
  else none

example : weekday epochDay = 3 := by decide

example : dayOfWeek? 2020 37 7 = dayOfMonth? 2020 9 13 := by decide +kernel

end TransferProof.Calendar
