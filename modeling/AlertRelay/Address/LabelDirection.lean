import AlertRelay.Text.CodePoints

/-!
# The direction of labels

A label is written from left to right or from right to left, and what it starts with, ends with
and may hold depends on that.  A domain name with any label from right to left is held to these
rules in all of its labels.
-/

namespace AlertRelay

/-- How a character of a label takes part in the direction of writing. -/
inductive Direction where
  | leftToRight
  | rightToLeft
  | europeanDigit
  | arabicDigit
  | mark
  | neutral
deriving DecidableEq

namespace Direction

/-- Letters that are written from right to left. -/
def rightToLeftLetters : CodePoints := CodePoints.ofText <|
  "5d0 1b 4 6 2b 20 1 a 23 2 1 4 4 5b 1 1 f 2 7 2 a 6 10 1 1 1e 1d 59 b 1 e 2b 9 2 a 16 4 1 9 1 " ++
    "3 1 17 19 7 b 5 18 1 6 11 2a f5a9 1 98c 6 2 1 1 2c 1 2 3 1 2 17 a 17 9 1f 41 13 1 2 a 16 a " ++
    "1a 46 38 6 2 40 1 f 4 1 3 1 1d 2a 1d 3 1d 23 8 1 1c 1b 36 a 16 a 13 d 12 6e 49 77 33 d 24 " ++
    "15c 2a 6 2 4e 1d a 1 8 16 2a 12 2e 15 1b 17 d809 c5 5d 22 7 1 4 a"

def europeanDigits : CodePoints := CodePoints.ofText <|
  "30 a 6b6 a"

def arabicDigits : CodePoints := CodePoints.ofText <|
  "660 a 106c6 a"

/-- Marks that take the direction of the character before them. -/
def directionlessMarks : CodePoints := CodePoints.ofText <|
  "300 40 2 1 3 9 1 20 113 5 109 2d 1 1 1 2 1 2 1 1 48 b 30 15 10 1 65 7 2 6 2 2 1 4 23 1 1e 1b " ++
    "5b b 3a 9 9 1 18 4 1 9 1 3 1 5 2b 3 3c 8 2a 18 1 20 37 1 1 1 4 8 4 1 3 7 a 2 1d 1 3a 1 4 4 " ++
    "8 1 14 2 1a 1 2 2 39 1 4 2 4 2 2 3 3 1 1e 2 3 1 b 2 39 1 4 5 1 2 4 1 14 2 16 6 1 1 3a 1 2 " ++
    "1 1 4 8 1 7 2 b 2 1e 1 3d 1 c 1 32 1 3 1 37 1 1 3 5 3 1 4 7 2 b 2 1d 1 3a 1 f 2 14 2 1c 2 " ++
    "39 2 4 4 8 1 14 2 1d 1 48 1 7 3 1 1 5a 1 2 7 c 8 62 1 2 9 b 6 4a 2 1b 1 1 1 1 1 37 2 1 1 5 " ++
    "5 1 1 1 3 1 2 5 6 1 4 1 4 1 4 1 4 1 4 1 c 1 3 9 1 66 4 1 6 1 2 2 2 19 2 4 3 10 4 d 1 2 2 6 " ++
    "1 f 1 2bf 3 3b2 3 1d 2 1e 2 1e 2 43 7 8 1 2 b 9 1 a7 2 22 1 76 3 4 2 9 1 6 3 db 2 2 1 3a 1 " ++
    "1 7 1 1 1 1 2 8 6 a 2 1 30 e 1 10 31 4 30 1 1 5 1 1 5 1 28 9 c 2 20 4 2 2 1 3 38 1 1 2 3 1 " ++
    "1 3 3a 8 2 2 98 3 1 d 1 7 4 1 6 1 3 2 c6 40 eef 3 8d 1 60 20 22a 4 6b 2 75d4 1 4 a 20 2 50 " ++
    "2 110 1 3 1 4 1 19 2 5 1 97 2 1a 12 d 1 26 8 19 b 2e 3 30 1 2 4 2 2 27 1 43 6 2 2 2 2 c 1 " ++
    "8 1 2f 1 33 1 1 3 2 2 5 2 1 1 2a 2 8 1 ee 1 2 1 4 1 4f30 1 301 10 3cd 1 e2 1 95 5 686 3 1 " ++
    "2 5 4 28 3 4 1 a5 2 23d 4 183 2 99 b 31 4 7b 1 36 f 29 1 2 2 a 3 31 4 2 2 7 1 3d 3 24 5 1 " ++
    "8 3e 1 c 2 34 9 a 4 2 1 5f 3 2 1 1 2 6 1 a0 1 3 8 15 2 39 2 3 1 25 7 3 5 c3 8 2 3 1 1 17 1 " ++
    "54 6 1 1 4 2 1 2 ee 4 6 2 1 2 1b 2 55 8 2 1 1 2 6a 1 1 1 2 6 1 1 65 3 2 4 1 5 103 9 1 2 " ++
    "100 2 1 1 4 1 90 4 2 2 4 1 20 6 2 2 28 6 2 4 8 1 9 6 2 3 2e d 1 2 196 7 1 6 54 16 2 7 1 2 " ++
    "1 2 7a 6 3 1 1 2 1 7 1 1 48 2 3 1 1 1 15b 2 4bfb 5 3b 7 418 1 3f 4 51 1 4cb8 2 1261 2e 2 " ++
    "17 ab9 37 4 32 8 1 e 1 16 5 1 f 550 7 1 11 2 7 1 2 1 5 105 7 177 1 3d 4 5e0 7 6d 7"

/-- Hyphens and the like, which have no direction of their own. -/
def neutralCharacters : CodePoints := CodePoints.ofText <|
  "2d 1 89 1 201 2 b a 1c 1 88 1 2ab9 1 2cb 1 7583 1 97 9 68 1"

/-- The direction of a character of a label. -/
def ofChar (c : Char) : Direction :=
  if rightToLeftLetters.contains c then rightToLeft
  else if europeanDigits.contains c then europeanDigit
  else if arabicDigits.contains c then arabicDigit
  else if directionlessMarks.contains c then mark
  else if neutralCharacters.contains c then neutral
  else leftToRight

/-- Whether a label is subject to the rules on its own. -/
def isAffected (label : List Char) : Bool :=
  label.any fun c => [rightToLeft, arabicDigit].contains (ofChar c)

/-- The direction of the last character that is no mark. -/
def last? (label : List Char) : Option Direction :=
  (label.reverse.map ofChar).find? (· != mark)

/-- The rules for a label from right to left: no letter from left to right, a letter or a digit at
the end, and digits of one kind only. -/
def fitsRightToLeft (label : List Char) : Bool :=
  let directions := label.map ofChar
  !directions.contains leftToRight &&
    (last? label).any [rightToLeft, europeanDigit, arabicDigit].contains &&
    !(directions.contains europeanDigit && directions.contains arabicDigit)

/-- The rules for a label from left to right: no letter and no digit from right to left, and a
letter or a digit at the end. -/
def fitsLeftToRight (label : List Char) : Bool :=
  !isAffected label && (last? label).any [leftToRight, europeanDigit].contains

/-- Whether a label starts with a letter and follows the rules for its direction. -/
def isConsistent (label : List Char) : Bool :=
  match label.head?.map ofChar with
  | some rightToLeft => fitsRightToLeft label
  | some leftToRight => fitsLeftToRight label
  | _ => false

end Direction
end AlertRelay
