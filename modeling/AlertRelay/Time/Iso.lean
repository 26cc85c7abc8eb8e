import AlertRelay.Text.Quoted
import AlertRelay.Time.Moment

/-!
# Reading moments from storage

The reader takes the extended and the basic formats for calendar and week dates, any single
character between date and time, and a distance from universal time to the microsecond.
-/

namespace AlertRelay

/-- Why a text is no moment. -/
inductive MomentFault where
  | malformed
  | outOfRange (part : String)
  | offsetOutOfRange (microseconds : Int)

namespace Moment

/-- Read a number of exactly `count` digits. -/
def digits? (count : Nat) (text : List Char) : Option (Nat × List Char) :=
  let taken := text.take count
  if taken.length = count ∧ taken.all Char.isDigit then
    some (taken.foldl (fun value c => value * 10 + (c.toNat - '0'.toNat)) 0, text.drop count)
  else none

/-- The length of the date part of a text. -/
def dateLength (text : List Char) : Nat :=
  if text.length = 7 then 7
  else if text[4]? = some '-' then
    if text[5]? = some 'W' then
      if text[8]? = some '-' then
        if (text[10]?).any Char.isDigit then 8 else 10
      else 8
    else 10
  else if text[4]? = some 'W' then
    let stop := 7 + ((text.drop 7).takeWhile Char.isDigit).length
    if stop < 9 then stop else if stop % 2 = 0 then 7 else 8
  else 8

/-- Read a separator when dates have one. -/
def separator? (separated : Bool) (text : List Char) : Option (List Char) :=
  if separated then
    match text with
    | '-' :: rest => some rest
    | _ => none
  else some text

/-- A date by week and day of the week; in the year zero it has no month. -/
def weekDate? (year week day : Nat) : Option Date :=
  if Calendar.hasWeek year week ∧ 1 ≤ day ∧ day ≤ 7 then
    if year = 0 then some ⟨1, 0, 0⟩
    else some (Calendar.dateOfNumber (Calendar.firstMonday year + (week - 1) * 7 + (day - 1)))
  else none

/-- Read a whole text as a date, whose parts may still be out of range. -/
def date? (text : List Char) : Option Date := do
  let (year, rest) ← digits? 4 text
  let (separated, rest) :=
    match rest with
    | '-' :: more => (true, more)
    | more => (false, more)
  match rest with
  | 'W' :: more =>
      let (week, rest) ← digits? 2 more
      if rest.isEmpty then weekDate? year week 1
      else
        let rest ← separator? separated rest
        let (day, _) ← digits? 1 rest
        weekDate? year week day
  | more =>
      let (month, rest) ← digits? 2 more
      let rest ← separator? separated rest
      let (day, rest) ← digits? 2 rest
      if rest.isEmpty then some ⟨year, month, day⟩ else none

/-- Hours, minutes, seconds and microseconds, with the characters left over after a fraction. -/
structure Clock where
  hour : Nat
  minute : Nat
  second : Nat
  microsecond : Nat
  rest : List Char

/-- Read a fraction of a second; digits after the sixth are dropped. -/
def fraction? (text : List Char) : Option (Nat × List Char) := do
  let count := min 6 text.length
  let (value, rest) ← digits? count text
  if count = 0 then none
  else some (value * Nat.pow 10 (6 - count), rest.dropWhile Char.isDigit)

def isFractionMark (c : Char) : Bool := c = '.' || c = ','

/-- Read the parts of a time of day after the hour; `separated` says whether colons stand
between the parts.  A single character after a part is left over. -/
def clockParts? (separated : Bool) (values : List Nat) (missing : Nat) (text : List Char) :
    Option Clock :=
  let clock (microsecond : Nat) (rest : List Char) : Clock :=
    ⟨values[0]?.getD 0, values[1]?.getD 0, values[2]?.getD 0, microsecond, rest⟩
  let withFraction (text : List Char) : Option Clock :=
    (fraction? text).map fun fraction => clock fraction.1 fraction.2
  match text with
  | [] => some (clock 0 [])
  | [c] => some (clock 0 [c])
  | c :: more =>
      match missing with
      | 0 =>
          if (separated && c = ':') || isFractionMark c then withFraction more
          else if separated then none
          else withFraction text
      | missing + 1 =>
          if isFractionMark c then withFraction more
          else
            let part? :=
              if separated then (if c = ':' then digits? 2 more else none) else digits? 2 text
            match part? with
            | none => none
            | some (value, rest) => clockParts? separated (values ++ [value]) missing rest

/-- Read a time of day. -/
def clock? (text : List Char) : Option Clock :=
  match digits? 2 text with
  | none => none
  | some (hour, rest) => clockParts? (rest.head? = some ':') [hour] 2 rest

/-- The microseconds east of universal time of a distance in the parts of a clock; a distance of
less than a second is none. -/
def clockDistance (west : Bool) (distance : Clock) : Int :=
  let seconds := distance.hour * 3600 + distance.minute * 60 + distance.second
  let size : Int := (seconds * 1000000 + distance.microsecond : Nat)
  if seconds = 0 then 0 else if west then -size else size

/-- Read a time of day with an optional distance from universal time.  Characters left
over before the distance are passed over. -/
def clockWithOffset? (text : List Char) : Option (Clock × Option Int) :=
  let isMark (c : Char) : Bool := c = '+' || c = '-' || c = 'Z'
  match clock? (text.takeWhile (!isMark ·)), text.dropWhile (!isMark ·) with
  | none, _ => none
  | some clock, [] => if clock.rest.isEmpty then some (clock, none) else none
  | some clock, mark :: zone =>
      if mark = 'Z' then
        if zone.isEmpty then some (clock, some 0) else none
      else
        match clock? zone with
        | some distance =>
            if distance.rest.isEmpty then
              some (clock, some (clockDistance (mark = '-') distance))
            else none
        | none => none

/-- The moment, when all its parts are in range. -/
def checked (date : Date) (clock : Clock) (offset : Option Int) : Except MomentFault Moment :=
  if offset.any fun distance => decide (86400000000 ≤ distance.natAbs) then
    .error (.offsetOutOfRange (offset.getD 0))
  else if date.year < 1 ∨ 9999 < date.year then
    .error (.outOfRange s!"year {date.year} is out of range")
  else if date.month < 1 ∨ 12 < date.month then .error (.outOfRange "month must be in 1..12")
  else if date.day < 1 ∨ Calendar.daysInMonth date.year date.month < date.day then
    .error (.outOfRange "day is out of range for month")
  else if 23 < clock.hour then .error (.outOfRange "hour must be in 0..23")
  else if 59 < clock.minute then .error (.outOfRange "minute must be in 0..59")
  else if 59 < clock.second then .error (.outOfRange "second must be in 0..59")
  else .ok ⟨date, clock.hour, clock.minute, clock.second, clock.microsecond, offset⟩

/-- The bytes of a text in UTF-8, each as a character. -/
def encoded (text : String) : List Char :=
  (Surrogate.points text).flatMap fun point =>
    (String.utf8EncodeChar point.character).map fun byte => Char.ofNat byte.toNat

/-- The count of the bytes of a character with the given first byte. -/
def encodedWidth (first : Char) : Nat :=
  if first.toNat < 0x80 then 1
  else if first.toNat < 0xe0 then 2
  else if first.toNat < 0xf0 then 3
  else 4

/-- Read a moment from its stored text. -/
def ofStoredText (text : String) : Except MomentFault Moment :=
  let bytes := encoded text
  let length := dateLength bytes
  match date? (bytes.take length) with
  | none => .error .malformed
  | some date =>
      match bytes.drop length with
      | [] => checked date ⟨0, 0, 0, 0, []⟩ none
      | first :: rest =>
        match clockWithOffset? (rest.drop (encodedWidth first - 1)) with
        | none => .error .malformed
        | some (clock, offset) => checked date clock offset

/-- A distance as days, seconds and microseconds, of which only the days may be negative; parts
that are zero are left out. -/
def intervalText (microseconds : Int) : String :=
  let seconds := microseconds / microsecondsPerSecond
  let parts := [("days", seconds / secondsPerDay), ("seconds", seconds % secondsPerDay),
    ("microseconds", microseconds % microsecondsPerSecond)]
  let shown := (parts.filter (·.2 != 0)).map fun part => s!"{part.1}={part.2}"
  if shown.isEmpty then "datetime.timedelta(0)"
  else "datetime.timedelta(" ++ String.intercalate ", " shown ++ ")"

end Moment

/-- The message for a fault found in a text. -/
def MomentFault.message (text : String) : MomentFault → String
  | .malformed => s!"Invalid isoformat string: {quoted text}"
  | .outOfRange reason => reason
  | .offsetOutOfRange microseconds =>
      "offset must be a timedelta strictly between -timedelta(hours=24) and " ++
        s!"timedelta(hours=24), not {Moment.intervalText microseconds}."

end AlertRelay
