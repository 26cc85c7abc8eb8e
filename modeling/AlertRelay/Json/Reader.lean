import AlertRelay.Json.Value
import AlertRelay.Text.CodePoints

/-!
# Reading JSON

The reader takes the whole text or reports the first fault with its position.  Besides the
standard grammar it accepts the numbers NaN, Infinity and -Infinity; the last of several members
with one name counts, at the place of the first.
-/

namespace AlertRelay

/-- Why a text is not JSON. -/
inductive JsonFault where
  | malformed (reason : String) (position : Nat)
  | tooManyDigits (count : Nat)
  | tooDeep (container : String)

namespace JsonFault

/-- The greatest count of digits of an integer. -/
def digitLimit : Nat := 4300

/-- The greatest nesting depth. -/
def depthLimit : Nat := 990

/-- Line and column, counted from one, of the code point that follows others. -/
def lineColumn (before : List Nat) : Nat × Nat :=
  let next (place : Nat × Nat) (code : Nat) : Nat × Nat :=
    if code = '\n'.toNat then (place.1 + 1, 1) else (place.1, place.2 + 1)
  before.foldl next (1, 1)

/-- The message for a fault found in a text, which counts code points. -/
def message (fault : JsonFault) (text : String) : String :=
  match fault with
  | .malformed reason position =>
      let before := Surrogate.codePoints (String.ofList (text.toList.take position))
      let (line, column) := lineColumn before
      s!"{reason}: line {line} column {column} (char {before.length})"
  | .tooManyDigits count =>
      s!"Exceeds the limit ({digitLimit} digits) for integer string conversion: " ++
        s!"value has {count} digits; use sys.set_int_max_str_digits() to increase the limit"
  | .tooDeep container =>
      s!"maximum recursion depth exceeded while decoding a JSON {container} from a unicode string"

end JsonFault

namespace Json.Reader

/-- The rest of the text and its position. -/
structure Input where
  rest : List Char
  position : Nat

/-- Advance past a number of characters. -/
def Input.advance (input : Input) (count : Nat) : Input :=
  ⟨input.rest.drop count, input.position + count⟩

def fault {α : Type} (reason : String) (position : Nat) : Except JsonFault α :=
  .error (.malformed reason position)

def isJsonSpace (c : Char) : Bool := c = ' ' || c = '\t' || c = '\n' || c = '\r'

def skipSpaces (input : Input) : Input :=
  input.advance (input.rest.takeWhile isJsonSpace).length

def isDigit (c : Char) : Bool := '0' ≤ c && c ≤ '9'

/-- The characters of a number: whole part, fraction and exponent; a fraction or an exponent
without digits does not belong to the number. -/
structure NumberText where
  negative : Bool
  whole : List Char
  fraction : List Char
  exponent : Option (Bool × List Char)

namespace NumberText

/-- The exponent at the start of a text, with the count of its characters. -/
def exponentOf (rest : List Char) : Option (Bool × List Char) × Nat :=
  match rest with
  | e :: more =>
      if e = 'e' ∨ e = 'E' then
        let (negative, digits, sign) :=
          match more with
          | '+' :: digits => (false, digits, 1)
          | '-' :: digits => (true, digits, 1)
          | digits => (false, digits, 0)
        let digits := digits.takeWhile isDigit
        if digits.isEmpty then (none, 0)
        else (some (negative, digits), 1 + sign + digits.length)
      else (none, 0)
  | [] => (none, 0)

/-- The fraction at the start of a text, with the count of its characters. -/
def fractionOf (rest : List Char) : List Char × Nat :=
  match rest with
  | '.' :: more =>
      let digits := more.takeWhile isDigit
      if digits.isEmpty then ([], 0) else (digits, digits.length + 1)
  | _ => ([], 0)

/-- The whole part at the start of a text; zero stands alone. -/
def wholeOf (rest : List Char) : List Char :=
  match rest with
  | '0' :: _ => ['0']
  | _ => rest.takeWhile isDigit

/-- The number at the start of a text, with the count of its characters. -/
def ofList (text : List Char) : Option (NumberText × Nat) :=
  let (negative, rest) :=
    match text with
    | '-' :: rest => (true, rest)
    | rest => (false, rest)
  let whole := wholeOf rest
  if whole.isEmpty then none
  else
    let rest := rest.drop whole.length
    let (fraction, fractionLength) := fractionOf rest
    let (exponent, exponentLength) := exponentOf (rest.drop fractionLength)
    let signLength := if negative then 1 else 0
    some (⟨negative, whole, fraction, exponent⟩,
      signLength + whole.length + fractionLength + exponentLength)

/-- The value of a list of digits. -/
def natural (digits : List Char) : Nat :=
  digits.foldl (fun value c => value * 10 + (c.toNat - '0'.toNat)) 0

/-- The number: an integer when it has neither fraction nor exponent. -/
def value (number : NumberText) : Except JsonFault Json :=
  if number.fraction.isEmpty && number.exponent.isNone then
    if JsonFault.digitLimit < number.whole.length then
      .error (.tooManyDigits number.whole.length)
    else
      let size : Int := natural number.whole
      .ok (.integer (if number.negative then -size else size))
  else
    let exponent : Int :=
      match number.exponent with
      | some (negative, digits) =>
          let size : Int := natural digits
          if negative then -size else size
      | none => 0
    let digits := number.whole ++ number.fraction
    .ok (.real (Double.ofDecimal number.negative (natural digits) digits.length
      (exponent - number.fraction.length)))

end NumberText

/-- The unit written by four hexadecimal digits. -/
def unit? (digits : List Char) : Option Nat :=
  match digits.mapM hexValue? with
  | some [a, b, c, d] => some (((a * 16 + b) * 16 + c) * 16 + d)
  | _ => none

/-- The character of a one-letter escape. -/
def shortEscape? (c : Char) : Option Char :=
  match c with
  | '"' => some '"'
  | '\\' => some '\\'
  | '/' => some '/'
  | 'b' => some '\x08'
  | 'f' => some '\x0c'
  | 'n' => some '\n'
  | 'r' => some '\r'
  | 't' => some '\t'
  | _ => none

/-- The code point of the escape whose letter is `u`, and the count of digits and letters after
that letter; `text` starts after the letter, which stands at `position`.  A pair of escapes is
joined only where the text goes on after it. -/
def unitEscape (text : List Char) (position : Nat) : Except JsonFault (Nat × Nat) :=
  if (text.drop 4).isEmpty then fault "Invalid \\uXXXX escape" position
  else
    match unit? (text.take 4) with
    | none => fault "Invalid \\uXXXX escape" position
    | some unit =>
        let after := text.drop 4
        if Surrogate.isHigh unit then
          match after with
          | '\\' :: 'u' :: more =>
              if !(more.drop 4).isEmpty then
                match unit? (more.take 4) with
                | none => fault "Invalid \\uXXXX escape" (position + 6)
                | some low =>
                    if Surrogate.isLow low then .ok (Surrogate.pair unit low, 10)
                    else .ok (unit, 4)
              else .ok (unit, 4)
          | _ => .ok (unit, 4)
        else .ok (unit, 4)

/-- The characters of a string up to its closing quote, and the input after the quote.  `start` is
the position of the opening quote. -/
def stringTail (fuel : Nat) (start : Nat) (collected : List Char) (input : Input) :
    Except JsonFault (String × Input) :=
  match fuel with
  | 0 => fault "Unterminated string starting at" start
  | fuel + 1 =>
      match input.rest with
      | [] => fault "Unterminated string starting at" start
      | '"' :: _ => .ok (String.ofList collected.reverse, input.advance 1)
      | '\\' :: 'u' :: digits =>
          match unitEscape digits (input.position + 1) with
          | .error fault => .error fault
          | .ok (code, length) =>
              let chars := (Surrogate.Point.ofCode code).chars
              stringTail fuel start (chars.reverse ++ collected) (input.advance (2 + length))
      | '\\' :: c :: _ =>
          match shortEscape? c with
          | some char => stringTail fuel start (char :: collected) (input.advance 2)
          | none => fault "Invalid \\escape" input.position
      | ['\\'] => fault "Unterminated string starting at" start
      | c :: _ =>
          if c.toNat < 0x20 then fault "Invalid control character at" input.position
          else stringTail fuel start (c :: collected) (input.advance 1)

/-- The words that stand for values. -/
def words : List (String × Json) :=
  [("null", .null), ("true", .bool true), ("false", .bool false), ("NaN", .real .nan),
    ("Infinity", .real (.infinite false)), ("-Infinity", .real (.infinite true))]

mutual

/-- The value at the start of the input. -/
def value (fuel depth : Nat) (input : Input) : Except JsonFault (Json × Input) :=
  match fuel with
  | 0 => fault "Expecting value" input.position
  | fuel + 1 =>
      match input.rest with
      | '"' :: _ =>
          match stringTail fuel input.position [] (input.advance 1) with
          | .error fault => .error fault
          | .ok (content, after) => .ok (.text content, after)
      | '{' :: _ =>
          if depth = 0 then .error (.tooDeep "object")
          else
            let inside := skipSpaces (input.advance 1)
            match inside.rest with
            | '}' :: _ => .ok (.object [], inside.advance 1)
            | _ => objectTail fuel (depth - 1) [] inside
      | '[' :: _ =>
          if depth = 0 then .error (.tooDeep "array")
          else
            let inside := skipSpaces (input.advance 1)
            match inside.rest with
            | ']' :: _ => .ok (.list [], inside.advance 1)
            | _ => listTail fuel (depth - 1) [] inside
      | rest =>
          match words.find? fun word => word.1.toList.isPrefixOf rest with
          | some (word, value) => .ok (value, input.advance word.length)
          | none =>
              match NumberText.ofList rest with
              | none => fault "Expecting value" input.position
              | some (number, length) =>
                  match number.value with
                  | .error fault => .error fault
                  | .ok value => .ok (value, input.advance length)

/-- The items of a list up to its closing bracket. -/
def listTail (fuel depth : Nat) (collected : List Json) (input : Input) :
    Except JsonFault (Json × Input) :=
  match fuel with
  | 0 => fault "Expecting value" input.position
  | fuel + 1 =>
      match value fuel depth input with
      | .error fault => .error fault
      | .ok (item, after) =>
          let after := skipSpaces after
          match after.rest with
          | ']' :: _ => .ok (.list (item :: collected).reverse, after.advance 1)
          | ',' :: _ => listTail fuel depth (item :: collected) (skipSpaces (after.advance 1))
          | _ => fault "Expecting ',' delimiter" after.position

/-- The members of an object up to its closing brace. -/
def objectTail (fuel depth : Nat) (collected : List (String × Json)) (input : Input) :
    Except JsonFault (Json × Input) :=
  match fuel with
  | 0 => fault "Expecting value" input.position
  | fuel + 1 =>
      match input.rest with
      | '"' :: _ =>
          match stringTail fuel input.position [] (input.advance 1) with
          | .error fault => .error fault
          | .ok (name, afterName) =>
              let afterName := skipSpaces afterName
              match afterName.rest with
              | ':' :: _ =>
                  match value fuel depth (skipSpaces (afterName.advance 1)) with
                  | .error fault => .error fault
                  | .ok (member, after) =>
                      let after := skipSpaces after
                      let collected := setEntry collected name member
                      match after.rest with
                      | '}' :: _ => .ok (.object collected, after.advance 1)
                      | ',' :: _ =>
                          objectTail fuel depth collected (skipSpaces (after.advance 1))
                      | _ => fault "Expecting ',' delimiter" after.position
              | _ => fault "Expecting ':' delimiter" afterName.position
      | _ => fault "Expecting property name enclosed in double quotes" input.position

end

end Json.Reader

/-- The value that a text denotes. -/
def Json.parse (text : String) : Except JsonFault Json :=
  let chars := text.toList
  if chars.head? = some '\ufeff' then
    .error (.malformed "Unexpected UTF-8 BOM (decode using utf-8-sig)" 0)
  else
    match Json.Reader.value (2 * chars.length + 2) JsonFault.depthLimit
        (Json.Reader.skipSpaces ⟨chars, 0⟩) with
    | .error fault => .error fault
    | .ok (value, after) =>
        let after := Json.Reader.skipSpaces after
        if after.rest.isEmpty then .ok value
        else .error (.malformed "Extra data" after.position)

end AlertRelay
