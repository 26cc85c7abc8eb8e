/-!
# Splitting text

Text is split at the first or the last place of a character, at every one of them, or at a length.
-/

namespace AlertRelay

/-- The parts before and after the first place of a character. -/
def splitFirst? (at? : Char) : List Char → Option (List Char × List Char)
  | [] => none
  | c :: rest =>
      if c = at? then some ([], rest)
      else (splitFirst? at? rest).map fun parts => (c :: parts.1, parts.2)

/-- The part before the first place of a character, which is everything when there is none. -/
def beforeFirst (at? : Char) (text : List Char) : List Char := text.takeWhile (· != at?)

/-- The part after the last place of an item, which is everything when there is none. -/
def afterLast {α : Type} [BEq α] (at? : α) (items : List α) : List α :=
  (items.reverse.takeWhile (· != at?)).reverse

/-- The start of a list; a negative length counts from the end. -/
def startOf {α : Type} (length : Int) (items : List α) : List α :=
  if 0 ≤ length then items.take length.toNat else items.take (items.length - length.natAbs)

/-- The parts between the places of a character. -/
def splitEvery (at? : Char) : List Char → List (List Char)
  | [] => [[]]
  | c :: rest =>
      match splitEvery at? rest with
      | [] => [[c]]
      | part :: parts => if c = at? then [] :: part :: parts else (c :: part) :: parts

/-- The text without the non-overlapping places of a pattern; `skip` counts the characters of a
place that are still to be passed over. -/
def removeFrom (pattern : List Char) (skip : Nat) : List Char → List Char
  | [] => []
  | c :: rest =>
      match skip with
      | skip + 1 => removeFrom pattern skip rest
      | 0 =>
          if !pattern.isEmpty && pattern.isPrefixOf (c :: rest) then
            removeFrom pattern (pattern.length - 1) rest
          else c :: removeFrom pattern 0 rest

/-- The text without the places of a pattern. -/
def removeAll (pattern : String) (text : List Char) : List Char :=
  removeFrom pattern.toList 0 text

end AlertRelay
