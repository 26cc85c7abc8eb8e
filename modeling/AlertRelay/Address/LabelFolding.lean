import AlertRelay.Text.Lowercase
import AlertRelay.Text.NormalForm

/-!
# Folding of domain names

Domain names that differ in case, in width or in the form of letters are one name.  Folding takes
a character to its compatible parts in lower case, drops characters without an effect of their
own, and takes every full stop to the plain one.  The folded form is in the normal form.
-/

namespace AlertRelay
namespace LabelFolding

/-- Full stops in the width and the style of ideographs. -/
def wideStops : List Char := ['\u3002', '\uff0e', '\uff61']

/-- Fillers and selectors of variants, which have no effect in a name. -/
def ignored : CodePoints := CodePoints.ofText <|
  "34f 1 e0f 2 653 2 55 3 1 1 1954 1 cc9b 10 190 1 d015f f0"

/-- Letters that are folded to others than their lower-case letter. -/
def special : List (Char × Char) :=
  [('\u0345', 'ι'), ('ς', 'σ'), ('\u1c80', 'в'), ('\u1c81', 'д'), ('\u1c82', 'о'),
    ('\u1c83', 'с'), ('\u1c84', 'т'), ('\u1c85', 'т'), ('\u1c86', 'ъ'), ('\u1c87', 'ѣ'),
    ('\u1c88', 'ꙋ')]

/-- The folded form of a letter without parts.  Letters of Cherokee are folded to capitals. -/
def foldLetter (c : Char) : List Char :=
  if '\u13a0' ≤ c ∧ c ≤ '\u13f5' then [c]
  else if '\u13f8' ≤ c ∧ c ≤ '\u13fd' then [Char.ofNat (c.toNat - 8)]
  else if '\uab70' ≤ c ∧ c ≤ '\uabbf' then [Char.ofNat (c.toNat - 0xab70 + 0x13a0)]
  else
    match special.lookup c with
    | some letter => [letter]
    | none => lowerChar c

/-- The folded form of a character; the sharp s and the final sigma stay. -/
def foldChar (c : Char) : List Char :=
  if wideStops.contains c then ['.']
  else if ignored.contains c then []
  else if c = 'ß' ∨ c = 'ς' then [c]
  else (compatibleParts c).flatMap foldLetter

/-- Whether a character may be folded: none but a full stop has one in its folded form. -/
def isFoldable (c : Char) : Bool :=
  c = '.' || wideStops.contains c || !(foldChar c).contains '.'

/-- The folded form of a text. -/
def fold? (text : List Char) : Option (List Char) :=
  if text.all isFoldable then some (normalForm (text.flatMap foldChar)) else none

end LabelFolding
end AlertRelay
