/-!
# The calendar

Dates of the proleptic Gregorian calendar are numbered from the first of January of year one,
which has the number one.
-/

namespace AlertRelay

/-- A day of the calendar. -/
structure Date where
  year : Nat
  month : Nat
  day : Nat
deriving DecidableEq

namespace Calendar

def isLeapYear (year : Nat) : Bool :=
  year % 4 == 0 && (year % 100 != 0 || year % 400 == 0)

/-- The lengths of the months of a year. -/
def monthLengths (year : Nat) : List Nat :=
  [31, if isLeapYear year then 29 else 28, 31, 30, 31, 30, 31, 31, 30, 31, 30, 31]

def daysInMonth (year month : Nat) : Nat := ((monthLengths year)[month - 1]?).getD 0

def daysBeforeYear (year : Nat) : Nat :=
  let past := year - 1
  past * 365 + past / 4 - past / 100 + past / 400

def daysBeforeMonth (year month : Nat) : Nat :=
  ((monthLengths year).take (month - 1)).foldl (· + ·) 0

def dayNumber (date : Date) : Nat :=
  daysBeforeYear date.year + daysBeforeMonth date.year date.month + date.day

/-- The month and the day that lie a number of days after the start of the given months. -/
def monthAndDay (month : Nat) (days : Nat) : List Nat → Nat × Nat
  | [] => (month, days + 1)
  | length :: rest =>
      if days < length then (month, days + 1) else monthAndDay (month + 1) (days - length) rest

/-- The date with a day number. -/
def dateOfNumber (number : Nat) : Date :=
  let days := number - 1
  let quadricentury := days / 146097
  let days := days % 146097
  let century := days / 36524
  let days := days % 36524
  let quadrennium := days / 1461
  let days := days % 1461
  let yearOfFour := days / 365
  let year := quadricentury * 400 + century * 100 + quadrennium * 4 + yearOfFour + 1
  if yearOfFour = 4 ∨ century = 4 then ⟨year - 1, 12, 31⟩
  else
    let (month, day) := monthAndDay 1 (days % 365) (monthLengths year)
    ⟨year, month, day⟩

/-- The day of the week of a day number, with Monday as zero. -/
def weekday (number : Nat) : Nat := (number + 6) % 7

/-- The number of the Monday that starts the first week of a year. -/
def firstMonday (year : Nat) : Nat :=
  let firstDay := daysBeforeYear year + 1
  let monday := firstDay - weekday firstDay
  if 3 < weekday firstDay then monday + 7 else monday

/-- Whether a year has a week with the given number. -/
def hasWeek (year week : Nat) : Bool :=
  let firstDay := weekday (daysBeforeYear year + 1)
  (1 ≤ week && week ≤ 52) ||
    (week == 53 && (firstDay == 3 || (firstDay == 2 && isLeapYear year)))

end Calendar
end AlertRelay
