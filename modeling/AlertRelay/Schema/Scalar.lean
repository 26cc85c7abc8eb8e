import AlertRelay.Number.RealText
import AlertRelay.Schema.Checked
import AlertRelay.Text.Blank
import AlertRelay.Text.Surrogate
import AlertRelay.Time.Exchange

/-!
# Scalar fields

Fields are read leniently: numbers and truth values also from texts that denote them, integers
also from whole reals.  A text is read from a text only.
-/

namespace AlertRelay
namespace Scalar

def text (data : Json) : Checked String :=
  match data with
  | .text value => .valid value
  | _ => Checked.issue .notText data

/-- The kind of issue of data that does not denote a value. -/
def orIssue {α : Type} (kind : IssueKind) : Option α → Except IssueKind α
  | some value => .ok value
  | none => .error kind

/-- Read a text, in which no half of a surrogate pair may stand. -/
def ofCharacters {α : Type} (read : String → Except IssueKind α) (value : String) :
    Except IssueKind α :=
  if Surrogate.isIn value then .error .notCharacters else read value

/-- The text without its underscores, each of which must be a single one with other characters on
both sides. -/
def withoutUnderscores? (text : List Char) : Option (List Char) :=
  let doubled := (text.zip (text.drop 1)).contains ('_', '_')
  if text.head? = some '_' || text.getLast? = some '_' || doubled then none
  else some (text.filter (· != '_'))

/-- The numeral without zeros at its start, of which the last one before a point or the end
stays. -/
def withoutLeadingZeros? : List Char → Option (List Char)
  | [] => none
  | c :: rest =>
      if c = '-' ∨ ('1' ≤ c ∧ c ≤ '9') then some (c :: rest)
      else if c ≠ '0' then none
      else
        let zeros := rest.takeWhile fun c => c = '0' || c = '_'
        let last := (c :: zeros).getLast?.getD c
        match rest.drop zeros.length with
        | [] => some [last]
        | d :: more =>
            if d = '.' then some (last :: d :: more)
            else if d = '-' ∨ ('1' ≤ d ∧ d ≤ '9') then some (d :: more)
            else none

/-- The numeral without a fraction of zeros, of which there must be at least one. -/
def withoutZeroFraction (numeral : List Char) : List Char :=
  let whole := numeral.takeWhile (· != '.')
  let places := (numeral.drop whole.length).drop 1
  if !places.isEmpty && places.all (· == '0') then whole else numeral

/-- The integer of a numeral with an optional minus sign and without needless zeros, which takes
up at most `digitLimit` characters. -/
def limitedInteger (numeral : List Char) : Except IssueKind Int :=
  let digits := if numeral.head? = some '-' then numeral.drop 1 else numeral
  let length := (numeral.length - digits.length) + (digits.takeWhile Char.isDigit).length
  if digits.head? = some '0' ∧ 1 < digits.length then .error .notIntegerText
  else if digitLimit < length then .error .tooLarge
  else orIssue .notIntegerText (signedDigits? numeral)

/-- The integer that a text denotes: a decimal numeral with an optional sign, white space around
it, and single underscores between digits; a fraction of zeros is allowed.  A minus sign may also
follow the zeros at the start. -/
def integerText (value : String) : Except IssueKind Int :=
  let trimmed := trimList isWhiteSpace value.toList
  let marked := match trimmed with
    | '+' :: rest => if rest.head? = some '-' then trimmed else rest
    | rest => rest
  let unsigned := if marked.head? = some '-' then marked.drop 1 else marked
  let numeral? := (withoutLeadingZeros? unsigned).bind fun numeral =>
    withoutUnderscores? (withoutZeroFraction numeral)
  (orIssue .notIntegerText numeral?).bind fun numeral =>
    limitedInteger (marked.take (marked.length - unsigned.length) ++ numeral)

/-- The least integer beyond a signed word of 64 bits. -/
def wordLimit : Int := 0x8000000000000000

/-- Whether an integer fits into a signed word of 64 bits. -/
def fitsWord (value : Int) : Bool := -wordLimit ≤ value && value < wordLimit

/-- The integer that a real denotes, which must lie strictly within the range of a word. -/
def integerReal (value : Double) : Except IssueKind Int :=
  if value.isFinite then
    (orIssue .notWhole value.toInt?).bind fun whole =>
      if -wordLimit < whole && whole < wordLimit then .ok whole else .error .tooLarge
  else .error .notFinite

def integer (data : Json) : Checked Int :=
  Checked.ofReading data <|
    match data with
    | .integer value => .ok value
    | .bool value => .ok (if value then 1 else 0)
    | .real value => integerReal value
    | .text value => ofCharacters integerText value
    | _ => .error .notInteger

/-- The number that a text denotes, with white space around it or underscores in it. -/
def realText (value : String) : Except IssueKind Double :=
  let chars := value.toList
  orIssue .notNumberText <|
    (Double.ofText? (trimList isWhiteSpace chars)).orElse fun _ =>
      (withoutUnderscores? chars).bind Double.ofText?

/-- A number, also from a text that denotes one. -/
def real (data : Json) : Checked Double :=
  Checked.ofReading data <|
    match data with
    | .real value => .ok value
    | .integer value =>
        let nearest := Double.ofInt value
        if nearest.isFinite then .ok nearest else .error .notNumber
    | .bool value => .ok (Double.ofInt (if value then 1 else 0))
    | .text value => ofCharacters realText value
    | _ => .error .notNumber

/-- The texts that stand for truth values, in lower case. -/
def truthTexts : List (String × Bool) :=
  [("true", true), ("t", true), ("yes", true), ("y", true), ("on", true), ("1", true),
    ("false", false), ("f", false), ("no", false), ("n", false), ("off", false), ("0", false)]

/-- The truth value that an integer denotes, if it can denote one. -/
def truthInteger (value : Int) : Except IssueKind Bool :=
  if value = 0 then .ok false
  else if value = 1 then .ok true
  else if fitsWord value then .error .notTruthText
  else .error .notTruth

def truth (data : Json) : Checked Bool :=
  Checked.ofReading data <|
    match data with
    | .bool value => .ok value
    | .integer value => truthInteger value
    | .real value =>
        match integerReal value with
        | .ok whole => truthInteger whole
        | .error _ => .error .notTruth
    | .text value =>
        ofCharacters (fun value => orIssue .notTruthText (truthTexts.lookup value.toLower)) value
    | _ => .error .notTruth

/-- One of a set of values with names. -/
def choice {α : Type} (values : List α) (name : α → String) (data : Json) : Checked α :=
  Checked.ofReading data <|
    match data with
    | .text given =>
        orIssue (.unknownChoice (values.map name)) (values.find? fun value => name value == given)
    | _ => .error (.unknownChoice (values.map name))

/-- A moment, from a text or from a count of seconds or milliseconds. -/
def moment (data : Json) : Checked Moment :=
  let counted (result : Except ExchangeFault Moment) : Except IssueKind Moment :=
    result.mapError fun _ => .momentOutOfRange
  Checked.ofReading data <|
    match data with
    | .text value =>
        ofCharacters (fun value =>
          (Moment.ofExchangeText value).mapError fun
            | .beforeYearOne => .momentOutOfRange
            | .unreadable => .notMomentText) value
    | .integer value =>
        if (Double.ofInt value).isFinite then counted (Moment.ofTimestamp value)
        else .error .notMoment
    | .real value => counted (Moment.ofRealTimestamp value)
    | _ => .error .notMoment

/-- The members of the record of a model. -/
def record (model : String) (data : Json) : Checked Members :=
  match data with
  | .object members => .valid members
  | _ => Checked.issue (.notRecord model) data

/-- Texts by name. -/
def textMap (data : Json) : Checked (List (String × String)) :=
  match data with
  | .object members =>
      Checked.all (members.map fun member =>
        ((text member.2).map fun value => (member.1, value)).within member.1)
  | _ => Checked.issue .notObject data

/-- A list of parts of one kind. -/
def list {α : Type} (read : Json → Checked α) (data : Json) : Checked (List α) :=
  match data with
  | .list items =>
      Checked.all (items.zipIdx.map fun item => (read item.1).within (toString item.2))
  | _ => Checked.issue .notList data

end Scalar
end AlertRelay
