import AlertRelay.Text.Blank
import AlertRelay.Text.CodePoints

/-!
# Integers in text

An integer is read from the decimal digits of any script, with blanks around it, an optional sign
and single underscores between digits.
-/

namespace AlertRelay

/-- The code points of the digit zero of each script. -/
def digitZeros : List Nat := hexNumbers <|
  "30 660 6f0 7c0 966 9e6 a66 ae6 b66 be6 c66 ce6 d66 de6 e50 ed0 f20 1040 1090 17e0 1810 " ++
    "1946 19d0 1a80 1a90 1b50 1bb0 1c40 1c50 a620 a8d0 a900 a9d0 a9f0 aa50 abf0 ff10 104a0 " ++
    "10d30 11066 110f0 11136 111d0 112f0 11450 114d0 11650 116c0 11730 118e0 11950 11c50 " ++
    "11d50 11da0 16a60 16ac0 16b50 1d7ce 1d7d8 1d7e2 1d7ec 1d7f6 1e140 1e2f0 1e950 1fbf0"

/-- The value of a decimal digit of any script. -/
def digitValue? (c : Char) : Option Nat :=
  if c.toNat < 0x80 then
    if '0' ≤ c ∧ c ≤ '9' then some (c.toNat - '0'.toNat) else none
  else
    (digitZeros.find? fun start => start ≤ c.toNat && c.toNat < start + 10).map (c.toNat - ·)

def isDecimalDigit (c : Char) : Bool := (digitValue? c).isSome

/-- The greatest count of digits that is converted in base ten. -/
def digitLimit : Nat := 4300

/-- The text with decimal digits of any script as ASCII digits and white space outside of ASCII
as spaces. -/
def plainDigits (text : List Char) : List Char :=
  text.map fun c =>
    if c.toNat < 0x80 then c
    else if isWhiteSpace c then ' '
    else match digitValue? c with
      | some value => Char.ofNat ('0'.toNat + value)
      | none => c

/-- The value of a character as a digit in a base of at most 36. -/
def baseDigit? (base : Nat) (c : Char) : Option Nat :=
  let value? :=
    if '0' ≤ c ∧ c ≤ '9' then some (c.toNat - '0'.toNat)
    else if 'a' ≤ c ∧ c ≤ 'z' then some (c.toNat - 'a'.toNat + 10)
    else if 'A' ≤ c ∧ c ≤ 'Z' then some (c.toNat - 'A'.toNat + 10)
    else none
  value?.filter (· < base)

/-- The digits of a numeral: at least one, with single underscores between them. -/
def numeral? (base : Nat) : List Char → Option (List Nat)
  | [] => none
  | c :: rest =>
      match baseDigit? base c with
      | none => none
      | some value =>
          match rest with
          | [] => some [value]
          | '_' :: more => (numeral? base more).map (value :: ·)
          | more => (numeral? base more).map (value :: ·)

/-- The number with the given digits, the most significant one first. -/
def ofDigits (base : Nat) (digits : List Nat) : Nat :=
  digits.foldl (fun value digit => value * base + digit) 0

/-- The sign in front of a numeral, as whether it is negative, and the numeral. -/
def splitSign : List Char → Bool × List Char
  | '+' :: rest => (false, rest)
  | '-' :: rest => (true, rest)
  | text => (false, text)

/-- An optional minus sign and ASCII decimal digits. -/
def signedDigits? (numeral : List Char) : Option Int :=
  let (negative, digits) := match numeral with
    | '-' :: rest => (true, rest)
    | rest => (false, rest)
  if digits.isEmpty || !digits.all Char.isDigit then none
  else
    let size : Int := digits.foldl (fun value c => value * 10 + (c.toNat - '0'.toNat)) 0
    some (if negative then -size else size)

def isSpacing (c : Char) : Bool := c = ' ' || (9 ≤ c.toNat && c.toNat ≤ 13)

/-- A numeral in base sixteen may start with `0x`. -/
def dropHexMark : List Char → List Char
  | '0' :: x :: rest =>
      if x = 'x' ∨ x = 'X' then
        match rest with
        | '_' :: more => more
        | more => more
      else '0' :: x :: rest
  | text => text

/-- The integer that a text denotes. -/
def readInt? (base : Nat) (text : List Char) : Option Int :=
  let trimmed := trimList isSpacing (plainDigits text)
  let (negative, unsigned) := splitSign trimmed
  let marked := if base = 16 then dropHexMark unsigned else unsigned
  match numeral? base marked with
  | none => none
  | some digits =>
      if base = 10 ∧ digitLimit < digits.length then none
      else
        let size : Int := ofDigits base digits
        some (if negative then -size else size)

end AlertRelay
