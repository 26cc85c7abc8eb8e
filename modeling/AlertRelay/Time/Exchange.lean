import AlertRelay.Number.RealText
import AlertRelay.Time.Iso

/-!
# Reading moments from exchanged data

The extended format with an optional distance from universal time, a date alone for its
midnight, or a count of seconds since 1970, which beyond `2 * 10 ^ 10` counts milliseconds.
-/

namespace AlertRelay

/-- Why data denotes no moment. -/
inductive ExchangeFault where
  | beforeYearOne
  | unreadable
deriving DecidableEq

namespace Moment

/-- Read one given character. -/
def mark? (accepted : Char → Bool) : List Char → Option (List Char)
  | c :: rest => if accepted c then some rest else none
  | [] => none

/-- Read a date at the start of a text; the year may be zero. -/
def leadingDate? (text : List Char) : Option (Date × List Char) := do
  let (year, rest) ← digits? 4 text
  let rest ← mark? (· = '-') rest
  let (month, rest) ← digits? 2 rest
  let rest ← mark? (· = '-') rest
  let (day, rest) ← digits? 2 rest
  if 1 ≤ month ∧ month ≤ 12 ∧ 1 ≤ day ∧ day ≤ Calendar.daysInMonth year month then
    some (⟨year, month, day⟩, rest)
  else none

/-- Read the seconds at the start of a text, with a fraction, when a colon starts them. -/
def leadingSeconds? (text : List Char) : Option (Nat × Nat × List Char) :=
  match text with
  | ':' :: rest => do
      let (second, rest) ← digits? 2 rest
      match rest with
      | c :: more =>
          if isFractionMark c then
            let digits := more.takeWhile Char.isDigit
            let (microsecond, _) ← fraction? digits
            some (second, microsecond, more.drop digits.length)
          else some (second, 0, rest)
      | [] => some (second, 0, [])
  | rest => some (0, 0, rest)

/-- Read the rest of a text as a distance from universal time. -/
def trailingOffset? (text : List Char) : Option (Option Int) :=
  match text with
  | [] => some none
  | sign :: rest =>
      if sign = 'Z' ∨ sign = 'z' then (if rest.isEmpty then some (some 0) else none)
      else do
        let west := sign = '-' || sign = '−'
        if !(west || sign = '+') then none
        else
          let (hour, rest) ← digits? 2 rest
          let rest := match rest with
            | ':' :: more => more
            | more => more
          let (minute, rest) ← digits? 2 rest
          let size : Int := ((hour * 3600 + minute * 60) * 1000000 : Nat)
          if rest.isEmpty ∧ minute < 60 ∧ hour < 24 then
            some (some (if west then -size else size))
          else none

/-- Read a whole text as date and time of day. -/
def ofExtended? (text : List Char) : Option Moment := do
  let (date, rest) ← leadingDate? text
  let rest ← mark? (fun c => c = 'T' || c = 't' || c = ' ' || c = '_') rest
  let (hour, rest) ← digits? 2 rest
  let rest ← mark? (· = ':') rest
  let (minute, rest) ← digits? 2 rest
  let (second, microsecond, rest) ← leadingSeconds? rest
  let offset ← trailingOffset? rest
  if hour ≤ 23 ∧ minute ≤ 59 ∧ second ≤ 59 then
    some ⟨date, hour, minute, second, microsecond, offset⟩
  else none

/-- The seconds between the start of the calendar and 1970. -/
def epochSeconds : Int := (Calendar.dayNumber ⟨1970, 1, 1⟩ : Int) * secondsPerDay

/-- The moment a number of seconds and of microseconds after 1970.  The years run from 1 to 9999;
the year zero can be named but is no year. -/
def ofEpoch (seconds : Int) (microsecond : Nat) : Except ExchangeFault Moment :=
  if seconds < -62167219200 ∨ 253402300799 < seconds then .error .unreadable
  else if seconds < -62135596800 then .error .beforeYearOne
  else .ok (ofSeconds (epochSeconds + seconds) microsecond)

/-- The greatest count that counts seconds. -/
def secondsLimit : Nat := 20000000000

/-- The moment of a timestamp without a fraction. -/
def ofTimestamp (count : Int) : Except ExchangeFault Moment :=
  if secondsLimit < count.natAbs then ofEpoch (count / 1000) ((count % 1000).toNat * 1000)
  else ofEpoch count 0

/-- The greatest integer that is not above a number. -/
def floorOf (negative : Bool) (numerator denominator : Nat) : Int :=
  let whole : Int := (numerator / denominator : Nat)
  if negative then (if numerator % denominator = 0 then -whole else -whole - 1) else whole

/-- The moment of a timestamp with a fraction, which is rounded to the microsecond. -/
def ofRealTimestamp (value : Double) : Except ExchangeFault Moment :=
  match value with
  | .finite negative mantissa exponent =>
      let (numerator, denominator) := Double.fraction mantissa exponent
      let count := floorOf negative numerator denominator
      let signed : Int := if negative then -(numerator : Int) else numerator
      let rest := Double.ofQuotient false (signed - count * (denominator : Int)).toNat denominator
      let perSecond : Nat := if value.exceeds secondsLimit then 1000 else 1
      let perCount := 1000000 / perSecond
      let microsecond :=
        (count % perSecond).toNat * perCount + (rest.scaled perCount 1).nearest
      ofEpoch (count / perSecond + (microsecond / 1000000 : Nat)) (microsecond % 1000000)
  | _ => .error .unreadable

/-- Read a number with an optional sign; it has an exponent only if it has a point. -/
def ofNumberText (text : List Char) : Except ExchangeFault Moment :=
  if text.contains '.' then
    match Double.ofText? text with
    | some value => ofRealTimestamp value
    | none => .error .unreadable
  else
    let unsigned := match text with
      | '+' :: rest => if rest.head? = some '-' then text else rest
      | rest => rest
    match signedDigits? unsigned with
    | some count => ofTimestamp count
    | none => .error .unreadable

/-- Read a whole text as a date, or as a date and time of day. -/
def ofDateText? (text : List Char) : Option Moment :=
  (ofExtended? text).orElse fun _ =>
    match leadingDate? text with
    | some (date, []) => some ⟨date, 0, 0, 0, 0, none⟩
    | _ => none

/-- Read a moment from a text. -/
def ofExchangeText (text : String) : Except ExchangeFault Moment :=
  match ofDateText? text.toList with
  | some moment => if moment.date.year = 0 then .error .beforeYearOne else .ok moment
  | none => ofNumberText text.toList

end Moment
end AlertRelay
