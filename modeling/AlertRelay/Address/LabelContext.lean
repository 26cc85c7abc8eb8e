import AlertRelay.Text.CodePoints

/-!
# Characters that depend on their label

Some characters may stand in a label only beside certain others: a middle dot between two `l`, the
numeral signs of Greek and Hebrew beside a letter of their script, the middle dot of Japanese
beside Japanese writing, and the two sets of Arabic digits not together.
-/

namespace AlertRelay
namespace LabelContext

def greek : CodePoints := CodePoints.ofText <|
  "370 4 1 3 2 4 1 1 4 1 1 1 1 3 1 1 1 14 1 3f e 10 1926 5 32 5 4 5 54 1 140 16 2 6 2 26 2 6 2 " ++
    "8 1 1 1 1 1 1 1 1f 2 35 1 f 1 e 2 6 1 13 2 3 1 9 127 1 8a3e 1 55da 4f 11 1 d05f 46"

def hebrew : CodePoints := CodePoints.ofText <|
  "591 37 8 1b 4 6 f528 1a 1 5 1 1 1 2 1 2 1 a"

/-- The scripts of Japanese: Hiragana, Katakana and Han. -/
def japanese : CodePoints := CodePoints.ofText <|
  "2e80 1a 1 59 c d6 2f 1 1 1 19 9 e 4 5 56 6 3 1 5a 2 3 f0 10 d0 2f 1 58 a8 19c0 40 5200 5900 " ++
    "16e 2 6a 48c a 1 2d 7044 2 c 7 3ff9 4 1 7 1 2 1 123 f 1 1d 3 2 1 e 4 4098 1 dff a6e0 20 " ++
    "111e 2 168e 2 1d31 f 26e 9a2 21e 5e2 134b 5 212a"

def isArabicDigit (c : Char) : Bool := '\u0660' ≤ c && c ≤ '\u0669'

def isEasternDigit (c : Char) : Bool := '\u06f0' ≤ c && c ≤ '\u06f9'

/-- Whether a character may stand between its neighbours in a label. -/
def allows (label : List Char) (before : Option Char) (c : Char) (after : Option Char) : Bool :=
  if c = '\u00b7' then before = some 'l' && after = some 'l'
  else if c = '\u0375' then after.any greek.contains
  else if c = '\u05f3' ∨ c = '\u05f4' then before.any hebrew.contains
  else if c = '\u30fb' then label.any japanese.contains
  else if isArabicDigit c then !label.any isEasternDigit
  else isEasternDigit c && !label.any isArabicDigit

end LabelContext
end AlertRelay
