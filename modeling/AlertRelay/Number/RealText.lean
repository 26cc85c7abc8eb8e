import AlertRelay.Number.Digits
import AlertRelay.Number.Double

/-!
# Reals in text

A real is read from digits around an optional point with an optional exponent, or from the name
of infinity or of no number.
-/

namespace AlertRelay
namespace Double

/-- The exponent of a numeral, which is zero when the numeral ends before it. -/
def exponent? : List Char → Option Int
  | [] => some 0
  | e :: rest =>
      if e = 'e' ∨ e = 'E' then
        signedDigits? (match rest with
          | '+' :: digits => if digits.head? = some '-' then rest else digits
          | digits => digits)
      else none

/-- The number without a sign that a text denotes: digits around an optional point and an optional
exponent, or the name of infinity or of no number. -/
def unsignedReal? (negative : Bool) (numeral : List Char) : Option Double :=
  let name := String.ofList (numeral.map Char.toLower)
  if name = "inf" ∨ name = "infinity" then some (.infinite negative)
  else if name = "nan" then some .nan
  else
    let whole := numeral.takeWhile Char.isDigit
    let rest := numeral.drop whole.length
    let (places, rest) := match rest with
      | '.' :: more =>
          let places := more.takeWhile Char.isDigit
          (places, more.drop places.length)
      | rest => ([], rest)
    let digits := whole ++ places
    if digits.isEmpty then none
    else
      (exponent? rest).map fun exponent =>
        let size := digits.foldl (fun value c => value * 10 + (c.toNat - '0'.toNat)) 0
        Double.ofDecimal negative size digits.length (exponent - places.length)

/-- The number that a text with an optional sign denotes. -/
def ofText? (numeral : List Char) : Option Double :=
  match numeral with
  | '-' :: rest => unsignedReal? true rest
  | '+' :: rest => unsignedReal? false rest
  | rest => unsignedReal? false rest

/-- The text without its underscores, each of which must stand between two digits. -/
def withoutDigitMarks? : List Char → Option (List Char)
  | [] => some []
  | '_' :: _ => none
  | c :: '_' :: d :: rest =>
      if c.isDigit && d.isDigit then (withoutDigitMarks? (d :: rest)).map (c :: ·) else none
  | c :: rest => (withoutDigitMarks? rest).map (c :: ·)

/-- The number that a text denotes in digits of any script, with white space around it and single
underscores between digits. -/
def read? (text : List Char) : Option Double :=
  (withoutDigitMarks? (trimList isSpacing (plainDigits text))).bind ofText?

end Double
end AlertRelay
