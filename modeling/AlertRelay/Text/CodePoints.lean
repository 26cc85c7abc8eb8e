/-!
# Sets of code points

A set is written as hexadecimal numbers that alternate between the length of a gap and the length
of a run, which keeps the large sets of the character database short.
-/

namespace AlertRelay

/-- The value of a hexadecimal digit. -/
def hexValue? (c : Char) : Option Nat :=
  if '0' ≤ c ∧ c ≤ '9' then some (c.toNat - '0'.toNat)
  else if 'a' ≤ c ∧ c ≤ 'f' then some (c.toNat - 'a'.toNat + 10)
  else if 'A' ≤ c ∧ c ≤ 'F' then some (c.toNat - 'A'.toNat + 10)
  else none

/-- The value of a hexadecimal number; other characters are passed over. -/
def hexNumber (digits : List Char) : Nat :=
  digits.foldl (fun value c => value * 16 + (hexValue? c).getD 0) 0

/-- The hexadecimal numbers of a text, separated by blanks. -/
def hexNumbers (text : String) : List Nat :=
  (text.splitOn " ").map fun word => hexNumber word.toList

/-- Half-open ranges of code points. -/
abbrev CodePoints := List (Nat × Nat)

namespace CodePoints

/-- The ranges written as gaps and runs, the first gap starting at `start`. -/
def ofGaps (start : Nat) : List Nat → CodePoints
  | gap :: run :: rest => (start + gap, start + gap + run) :: ofGaps (start + gap + run) rest
  | _ => []

/-- The ranges of a written table. -/
def ofText (text : String) : CodePoints := ofGaps 0 (hexNumbers text)

def contains (ranges : CodePoints) (c : Char) : Bool :=
  ranges.any fun range => range.1 ≤ c.toNat && c.toNat < range.2

end CodePoints
end AlertRelay
