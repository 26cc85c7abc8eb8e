/-!
# Double-precision numbers

A finite number is a signed natural mantissa scaled by a power of two, so every operation below
is exact arithmetic on naturals followed by a single rounding to nearest, ties to even.  The
written form is the shortest decimal that reads back as the same number.
-/

namespace AlertRelay

/-- A binary floating-point number with a 53-bit mantissa and an 11-bit exponent. -/
inductive Double where
  | nan
  | infinite (negative : Bool)
  | finite (negative : Bool) (mantissa : Nat) (exponent : Int)
deriving DecidableEq

namespace Double

/-- The least exponent of a finite number. -/
def minExponent : Int := -1074

/-- The greatest exponent of a finite number. -/
def maxExponent : Int := 971

def zero : Double := .finite false 0 minExponent

instance : Inhabited Double := ⟨zero⟩

/-- The quotient rounded to the nearest natural, a tie going to the even neighbour. -/
def roundQuotient (numerator denominator : Nat) : Nat :=
  let quotient := numerator / denominator
  let twiceRest := 2 * (numerator % denominator)
  if twiceRest < denominator then quotient
  else if denominator < twiceRest then quotient + 1
  else if quotient % 2 = 0 then quotient else quotient + 1

/-- Numerator and denominator of a quotient divided by a power of two. -/
def scaledQuotient (numerator denominator : Nat) (exponent : Int) : Nat × Nat :=
  if 0 ≤ exponent then (numerator, denominator * Nat.pow 2 exponent.toNat)
  else (numerator * Nat.pow 2 (-exponent).toNat, denominator)

/-- A mantissa that rounding has carried to 54 bits gives back its last bit. -/
def normalize (negative : Bool) (mantissa : Nat) (exponent : Int) : Double :=
  if mantissa = 0 then .finite negative 0 minExponent
  else
    let (mantissa, exponent) :=
      if mantissa = Nat.pow 2 53 then (Nat.pow 2 52, exponent + 1) else (mantissa, exponent)
    if maxExponent < exponent then .infinite negative else .finite negative mantissa exponent

/-- The number nearest to a quotient of naturals. -/
def ofQuotient (negative : Bool) (numerator denominator : Nat) : Double :=
  if numerator = 0 then .finite negative 0 minExponent
  else
    let guess : Int := (Nat.log2 numerator : Int) - (Nat.log2 denominator : Int) - 52
    let (guessNumerator, guessDenominator) := scaledQuotient numerator denominator guess
    let exponent := if Nat.pow 2 52 * guessDenominator ≤ guessNumerator then guess else guess - 1
    let exponent := max exponent minExponent
    let (scaledNumerator, scaledDenominator) := scaledQuotient numerator denominator exponent
    normalize negative (roundQuotient scaledNumerator scaledDenominator) exponent

/-- The number nearest to a signed decimal `digits * 10 ^ exponent`, where `width` bounds the
count of digits. -/
def ofDecimal (negative : Bool) (digits width : Nat) (exponent : Int) : Double :=
  if digits = 0 then .finite negative 0 minExponent
  else if 400 < exponent then .infinite negative
  else if exponent + (width : Int) < -400 then .finite negative 0 minExponent
  else if 0 ≤ exponent then ofQuotient negative (digits * Nat.pow 10 exponent.toNat) 1
  else ofQuotient negative digits (Nat.pow 10 (-exponent).toNat)

/-- The number nearest to an integer. -/
def ofInt (value : Int) : Double :=
  ofQuotient (decide (value < 0)) value.natAbs 1

/-- Numerator and denominator of a mantissa scaled by a power of two. -/
def fraction (mantissa : Nat) (exponent : Int) : Nat × Nat :=
  if 0 ≤ exponent then (mantissa * Nat.pow 2 exponent.toNat, 1)
  else (mantissa, Nat.pow 2 (-exponent).toNat)

/-- The number multiplied by a quotient of naturals. -/
def scaled (value : Double) (numerator denominator : Nat) : Double :=
  match value with
  | .finite negative mantissa exponent =>
      let (top, bottom) := fraction mantissa exponent
      ofQuotient negative (top * numerator) (bottom * denominator)
  | other => other

/-- The number multiplied by `2 ^ count`. -/
def doubled (value : Double) (count : Nat) : Double := value.scaled (Nat.pow 2 count) 1

/-- Whether the size of a number exceeds a natural. -/
def exceeds (value : Double) (limit : Nat) : Bool :=
  match value with
  | .finite _ mantissa exponent =>
      let (numerator, denominator) := fraction mantissa exponent
      decide (limit * denominator < numerator)
  | .infinite _ => true
  | .nan => false

/-- The natural nearest to the size of a number; a half counts as a whole. -/
def nearest : Double → Nat
  | .finite _ mantissa exponent =>
      let (numerator, denominator) := fraction mantissa exponent
      (2 * numerator + denominator) / (2 * denominator)
  | _ => 0

/-- The integer that the number equals, when it equals one. -/
def toInt? : Double → Option Int
  | .finite negative mantissa exponent =>
      let (numerator, denominator) := fraction mantissa exponent
      if numerator % denominator = 0 then
        let size : Int := (numerator / denominator : Nat)
        some (if negative then -size else size)
      else none
  | _ => none

def isFinite : Double → Bool
  | .finite .. => true
  | _ => false

def isZero : Double → Bool
  | .finite _ mantissa _ => mantissa == 0
  | _ => false

def isAtMostZero : Double → Bool
  | .finite negative mantissa _ => negative || mantissa == 0
  | .infinite negative => negative
  | .nan => false

/-- The decimal digits of a natural. -/
def decimalDigits (value : Nat) : List Char := Nat.toDigits 10 value

/-- A positive decimal `0.d₁d₂… * 10 ^ point`. -/
structure Decimal where
  digits : List Char
  point : Int

/-- The decimal `value * 10 ^ (point - count)` without the zeros at its end; a value carried to
`count + 1` digits moves the point. -/
def Decimal.ofScaled (value count : Nat) (point : Int) : Decimal :=
  let digits := decimalDigits value
  { digits := (digits.reverse.dropWhile (· == '0')).reverse
    point := if count < digits.length then point + 1 else point }

/-- Of the two decimals with `count` digits beside the value, one that reads back as it; of
two such, the nearer one, and on a tie the even one. -/
def readingBack? (value : Double) (numerator denominator : Nat) (point : Int) (count : Nat) :
    Option Decimal :=
  let scale : Int := (count : Int) - point
  let (scaledNumerator, scaledDenominator) :=
    if 0 ≤ scale then (numerator * Nat.pow 10 scale.toNat, denominator)
    else (numerator, denominator * Nat.pow 10 (-scale).toNat)
  let below := scaledNumerator / scaledDenominator
  let candidates := [roundQuotient scaledNumerator scaledDenominator, below, below + 1]
  (candidates.find? fun digits => ofDecimal false digits (count + 1) (-scale) == value).map
    fun digits => Decimal.ofScaled digits count point

/-- The shortest decimal that reads back as the positive number, and of several the nearest. -/
def shortest (mantissa : Nat) (exponent : Int) : Decimal :=
  let (numerator, denominator) := fraction mantissa exponent
  let point : Int := ((decimalDigits (numerator * Nat.pow 10 400 / denominator)).length : Int) - 400
  let value := Double.finite false mantissa exponent
  ((List.range 17).findSome? fun count =>
      readingBack? value numerator denominator point (count + 1)).getD ⟨[], 0⟩

/-- The exponent of scientific notation: a sign and at least two digits. -/
def exponentText (exponent : Int) : List Char :=
  let digits := decimalDigits exponent.natAbs
  (if exponent < 0 then '-' else '+') :: (if digits.length < 2 then '0' :: digits else digits)

/-- Digits with a point at the given position, in positional notation from `10 ^ -4` up to
`10 ^ 16` and in scientific notation outside of that range. -/
def decimalText (digits : List Char) (point : Int) : List Char :=
  if -4 < point ∧ point ≤ 0 then
    '0' :: '.' :: (List.replicate (-point).toNat '0' ++ digits)
  else if 0 < point ∧ point ≤ 16 then
    if (digits.length : Int) ≤ point then
      digits ++ List.replicate (point.toNat - digits.length) '0' ++ ['.', '0']
    else digits.take point.toNat ++ '.' :: digits.drop point.toNat
  else
    let fraction := digits.drop 1
    digits.take 1 ++ (if fraction.isEmpty then [] else '.' :: fraction) ++
      'e' :: exponentText (point - 1)

/-- The written form of a number. -/
def text : Double → String
  | .nan => "nan"
  | .infinite negative => if negative then "-inf" else "inf"
  | .finite negative mantissa exponent =>
      let size :=
        if mantissa = 0 then "0.0"
        else
          let decimal := shortest mantissa exponent
          String.ofList (decimalText decimal.digits decimal.point)
      if negative then "-" ++ size else size

end Double
end AlertRelay
