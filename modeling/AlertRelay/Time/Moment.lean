import AlertRelay.Time.Calendar

/-!
# Moments

A moment is a date with a time of day, to the microsecond, and optionally its distance from
universal time.  It has two written forms, which differ in how they show a distance of zero.
-/

namespace AlertRelay

/-- A date with a time of day; `offset` counts the microseconds east of universal time. -/
structure Moment where
  date : Date
  hour : Nat
  minute : Nat
  second : Nat
  microsecond : Nat
  offset : Option Int
deriving DecidableEq

namespace Moment

/-- A number with leading zeros up to a width. -/
def padded (width value : Nat) : List Char :=
  let digits := Nat.toDigits 10 value
  List.replicate (width - digits.length) '0' ++ digits

/-- Date and time of day, with the microseconds when there are any. -/
def localText (moment : Moment) : List Char :=
  padded 4 moment.date.year ++ '-' :: padded 2 moment.date.month ++ '-' ::
    padded 2 moment.date.day ++ 'T' :: padded 2 moment.hour ++ ':' ::
    padded 2 moment.minute ++ ':' :: padded 2 moment.second ++
    (if moment.microsecond = 0 then [] else '.' :: padded 6 moment.microsecond)

/-- A distance in seconds from universal time, in hours and minutes. -/
def distanceText (seconds : Int) : List Char :=
  let minutes := seconds.natAbs / 60
  (if seconds < 0 then '-' else '+') :: padded 2 (minutes / 60) ++ ':' :: padded 2 (minutes % 60)

/-- The seconds nearest to a count of microseconds; a half counts as a whole. -/
def nearestSeconds (microseconds : Int) : Int :=
  let size : Int := ((microseconds.natAbs + 500000) / 1000000 : Nat)
  if microseconds < 0 then -size else size

/-- The form for exchange with others, with `Z` for universal time. -/
def exchangeText (moment : Moment) : String :=
  String.ofList (moment.localText ++
    match moment.offset.map nearestSeconds with
    | none => []
    | some seconds => if seconds = 0 then ['Z'] else distanceText seconds)

def secondsPerDay : Int := 86400

def microsecondsPerSecond : Int := 1000000

/-- The microseconds since the start of the calendar, less the distance from universal time. -/
def microseconds (moment : Moment) : Int :=
  let seconds : Int := (Calendar.dayNumber moment.date : Int) * secondsPerDay +
    (moment.hour * 3600 + moment.minute * 60 + moment.second : Nat)
  seconds * microsecondsPerSecond + (moment.microsecond : Int) - moment.offset.getD 0

/-- The moment of universal time with a number of seconds since the start of the calendar. -/
def ofSeconds (seconds : Int) (microsecond : Nat) : Moment :=
  let ofDay := (seconds % secondsPerDay).toNat
  { date := Calendar.dateOfNumber (seconds / secondsPerDay).toNat
    hour := ofDay / 3600
    minute := ofDay / 60 % 60
    second := ofDay % 60
    microsecond
    offset := some 0 }

/-- The same moment in universal time, where it must lie in the years 1 to 9999. -/
def toUniversal? (moment : Moment) : Option Moment :=
  let seconds := moment.microseconds / microsecondsPerSecond
  let day := seconds / secondsPerDay
  if 1 ≤ day ∧ day ≤ Calendar.dayNumber ⟨9999, 12, 31⟩ then
    some (ofSeconds seconds (moment.microseconds % microsecondsPerSecond).toNat)
  else none

/-- The form in the delivery table of a moment of universal time. -/
def storedText (moment : Moment) : String :=
  String.ofList (moment.localText ++ distanceText 0)

end Moment
end AlertRelay
