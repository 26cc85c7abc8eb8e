import AlertRelay.Text.CombiningClass
import AlertRelay.Text.Decomposition

/-!
# The composed normal form

Texts that are canonically equivalent have one normal form: all characters are decomposed, the
marks after each character are put into the order of their classes, and then each character takes
in the marks that it forms a single character with.
-/

namespace AlertRelay

/-- Characters that are decomposed and never composed again. -/
def compositionExclusions : CodePoints := CodePoints.ofText <|
  "344 1 613 8 7c 2 1 1 53 1 2 1 22 3 2 1 fd 2 3e5 1 9 1 4 1 4 1 4 1 c 1 9 1 1 2 1 1 8 1 11 1 9 " ++
    "1 4 1 4 1 4 1 c 1 1b22 1 d040 1 1 1 a d 1 5 1 1 1 2 1 2 1 9 d60f 7 56 6"

/-- A pair of characters with the character that it is composed to. -/
structure Composition where
  first : Char
  second : Char
  composed : Char

/-- The compositions of all pairs but those of Hangul. -/
def compositions : List Composition :=
  canonicalRuns.filterMap fun run =>
    match run.parts with
    | [first, second] =>
        let composed := Char.ofNat run.start
        if compositionExclusions.contains composed then none
        else some ⟨Char.ofNat first, Char.ofNat second, composed⟩
    | _ => none

def compose? (first second : Char) : Option Char :=
  if second.toNat < 0x300 then none
  else
    (Hangul.compose? first second).orElse fun _ =>
      (compositions.find? fun pair => pair.second = second ∧ pair.first = first).map
        Composition.composed

/-- Put a character in front of a text, behind the marks of lower classes that the text starts
with. -/
def insertMark (c : Char) : List Char → List Char
  | [] => [c]
  | d :: rest =>
      if combiningClass d ≠ 0 ∧ combiningClass d < combiningClass c then d :: insertMark c rest
      else c :: d :: rest

/-- The text with the marks after each character in the order of their classes. -/
def orderMarks (text : List Char) : List Char := text.foldr insertMark []

/-- Compose a character with what follows it.  Marks that it does not take in are kept in reverse;
they block later marks of their own and of lower classes. -/
def composeFrom (first : Char) (kept : List Char) : List Char → List Char
  | [] => first :: kept.reverse
  | c :: rest =>
      let isBlocked := kept.head?.any fun mark => decide (combiningClass c ≤ combiningClass mark)
      match (if isBlocked then none else compose? first c) with
      | some composed => composeFrom composed kept rest
      | none =>
          if combiningClass c = 0 then first :: kept.reverse ++ composeFrom c [] rest
          else composeFrom first (c :: kept) rest

/-- The text with all characters composed. -/
def composeAll : List Char → List Char
  | [] => []
  | c :: rest => composeFrom c [] rest

/-- The composed normal form of a text. -/
def normalForm (text : List Char) : List Char :=
  if text.all fun c => c.toNat < 0x300 then text
  else composeAll (orderMarks (text.flatMap canonicalParts))

end AlertRelay
