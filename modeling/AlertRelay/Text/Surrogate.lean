/-!
# Halves of surrogate pairs

JSON can name half of a surrogate pair, which is a code point but no character.  A text keeps such a
half as an unassigned character of its own.  Where that character itself is meant, a mark stands
before it, so texts with different code points are different.
-/

namespace AlertRelay
namespace Surrogate

/-- Whether a unit of UTF-16 is the first half of a surrogate pair. -/
def isHigh (unit : Nat) : Bool := 0xd800 ≤ unit && unit < 0xdc00

/-- Whether a unit of UTF-16 is the second half of a surrogate pair. -/
def isLow (unit : Nat) : Bool := 0xdc00 ≤ unit && unit < 0xe000

/-- Whether a code point is half of a surrogate pair. -/
def isHalf (code : Nat) : Bool := isHigh code || isLow code

/-- The code point of a surrogate pair. -/
def pair (high low : Nat) : Nat := 0x10000 + (high - 0xd800) * 0x400 + (low - 0xdc00)

/-- How far above half of a surrogate pair the character lies that stands for it. -/
def distance : Nat := 0xd0000

/-- The character that stands for half of a surrogate pair. -/
def standIn (half : Nat) : Char := Char.ofNat (distance + half)

/-- The half of a surrogate pair that a character stands for without the mark. -/
def halfOf? (c : Char) : Option Nat :=
  let code := c.toNat - distance
  if isHalf code then some code else none

/-- The mark before a character that is meant itself. -/
def mark : Char := Char.ofNat 0xdffff

/-- Whether a character is meant itself only behind the mark. -/
def isReserved (c : Char) : Bool := c == mark || (halfOf? c).isSome

/-- A code point in a text: one character, or one character behind the mark. -/
inductive Point where
  | plain (c : Char)
  | marked (c : Char)
deriving DecidableEq

/-- The character that replaces what cannot be encoded. -/
def replacement : Char := Char.ofNat 0xfffd

namespace Point

def character : Point → Char
  | plain c => c
  | marked c => c

/-- The characters of the text at the point. -/
def chars : Point → List Char
  | plain c => [c]
  | marked c => [mark, c]

/-- The half of a surrogate pair that the point stands for. -/
def half? : Point → Option Nat
  | plain c => halfOf? c
  | marked _ => none

def code (point : Point) : Nat := point.half?.getD point.character.toNat

def ofCharacter (c : Char) : Point := if isReserved c then marked c else plain c

def ofCode (code : Nat) : Point :=
  if isHalf code then plain (standIn code) else ofCharacter (Char.ofNat code)

/-- The characters of the point, or three replacements for the bytes of a half. -/
def replaced (point : Point) : List Char :=
  if point.half?.isSome then List.replicate 3 replacement else point.chars

end Point

/-- The points that characters make up. -/
def pointsOf : List Char → List Point
  | [] => []
  | [c] => [.plain c]
  | c :: d :: rest =>
      if c = mark then .marked d :: pointsOf rest else .plain c :: pointsOf (d :: rest)

/-- The points of a text. -/
def points (text : String) : List Point := pointsOf text.toList

/-- The text that points make up. -/
def ofPoints (points : List Point) : String := String.ofList (points.flatMap Point.chars)

/-- The code points of a text, in which halves of surrogate pairs count as themselves. -/
def codePoints (text : String) : List Nat := (points text).map Point.code

/-- The text with the given code points. -/
def ofCodePoints (codes : List Nat) : String := ofPoints (codes.map Point.ofCode)

/-- Whether half of a surrogate pair stands in a text. -/
def isIn (text : String) : Bool := (codePoints text).any isHalf

/-- Whether a text is not after another one in the order of code points. -/
def notAfter (first second : String) : Bool :=
  !(codePoints second).lex (codePoints first) fun before after => decide (before < after)

/-- The text with replacements for each half. -/
def replaced (text : String) : String :=
  String.ofList ((points text).flatMap Point.replaced)

end Surrogate
end AlertRelay
