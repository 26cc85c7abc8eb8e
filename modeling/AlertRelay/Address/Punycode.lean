/-!
# Punycode

Labels of domain names in letters, digits and hyphens.  The plain characters of a label come first,
and each other character is written as the distance to it in the order of all insertions, in digits
of a mixed base that adapts to the distances seen so far.
-/

namespace AlertRelay
namespace Punycode

/-- The digit for a value below 36: a letter or a decimal digit. -/
def digit (value : Nat) : Char :=
  if value < 26 then Char.ofNat ('a'.toNat + value) else Char.ofNat ('0'.toNat + (value - 26))

def digitValue? (c : Char) : Option Nat :=
  if 'a' ≤ c ∧ c ≤ 'z' then some (c.toNat - 'a'.toNat)
  else if 'A' ≤ c ∧ c ≤ 'Z' then some (c.toNat - 'A'.toNat)
  else if '0' ≤ c ∧ c ≤ '9' then some (c.toNat - '0'.toNat + 26)
  else none

/-- The value from which on a digit at a position is followed by another one. -/
def threshold (position bias : Nat) : Nat := max 1 (min 26 (position - bias))

theorem threshold_pos (position bias : Nat) : 0 < threshold position bias := by
  unfold threshold
  omega

/-- The bias for a distance that was scaled down; `steps` grows with every further scaling. -/
def biasOf (steps distance : Nat) : Nat :=
  if 455 < distance then biasOf (steps + 36) (distance / 35)
  else steps + 36 * distance / (distance + 38)
termination_by distance
decreasing_by omega

/-- The bias after a distance, in a label that has `count` characters with the new one. -/
def adapt (distance count : Nat) (isFirst : Bool) : Nat :=
  let scaled := if isFirst then distance / 700 else distance / 2
  biasOf 0 (scaled + scaled / count)

/-- The digits of a distance from a position on. -/
def digits (bias position distance : Nat) : List Char :=
  let least := threshold position bias
  if distance < least then [digit distance]
  else
    digit (least + (distance - least) % (36 - least)) ::
      digits bias (position + 36) ((distance - least) / (36 - least))
termination_by distance
decreasing_by
  have positive := threshold_pos position bias
  have bound := Nat.div_le_self (distance - threshold position bias)
    (36 - threshold position bias)
  omega

/-- The position of the first digit. -/
def firstPosition : Nat := 36

/-- The bias before the first distance. -/
def firstBias : Nat := 72

/-- The first code point that is not plain. -/
def firstCode : Nat := 0x80

def isPlain (c : Char) : Bool := c.toNat < firstCode

/-- Where an encoder stands: how far it is from the last insertion, how it writes distances, and how
many characters of the label are done. -/
structure Progress where
  distance : Nat
  bias : Nat
  done : Nat

/-- Pass over a label, inserting every character with the given code; `plain` is the count of plain
characters. -/
def insertions (plain code : Nat) (progress : Progress) : List Char → List Char × Progress
  | [] => ([], progress)
  | c :: rest =>
      if c.toNat < code then
        insertions plain code { progress with distance := progress.distance + 1 } rest
      else if c.toNat = code then
        let written := digits progress.bias firstPosition progress.distance
        let bias := adapt progress.distance (progress.done + 1) (progress.done == plain)
        let (others, after) := insertions plain code ⟨0, bias, progress.done + 1⟩ rest
        (written ++ others, after)
      else insertions plain code progress rest

/-- Insert the characters with the given codes, which ascend from `next` on. -/
def insertCodes (label : List Char) (plain next : Nat) (progress : Progress) :
    List Nat → List Char
  | [] => []
  | code :: rest =>
      let distance := progress.distance + (code - next) * (progress.done + 1)
      let (written, after) := insertions plain code { progress with distance } label
      written ++ insertCodes label plain (code + 1)
        { after with distance := after.distance + 1 } rest

/-- The codes of a label that are not plain, each one once and ascending. -/
def codes (label : List Char) : List Nat :=
  (((label.filter fun c => !isPlain c).map Char.toNat).mergeSort).eraseDups

def encode (label : List Char) : List Char :=
  let plain := label.filter isPlain
  plain ++ (if plain.isEmpty then [] else ['-']) ++
    insertCodes label plain.length firstCode ⟨0, firstBias, plain.length⟩ (codes label)

/-- Read a distance; a digit at a position counts `weight` times. -/
def distance? (bias position weight total : Nat) : List Char → Option (Nat × List Char)
  | [] => none
  | c :: rest =>
      match digitValue? c with
      | none => none
      | some value =>
          let total := total + value * weight
          let least := threshold position bias
          if value < least then some (total, rest)
          else distance? bias (position + 36) (weight * (36 - least)) total rest

/-- Insert characters into a label until the written distances end.  The next character goes
`distance` places after place `place` of the order of insertions that starts with `code`; `fuel`
bounds the count of insertions. -/
def insertAll (fuel bias code place : Nat) (isFirst : Bool) (label written : List Char) :
    Option (List Char) :=
  match fuel, written with
  | _, [] => some label
  | 0, _ => none
  | fuel + 1, written =>
      match distance? bias firstPosition 1 0 written with
      | none => none
      | some (distance, rest) =>
          let count := label.length + 1
          let code := code + (place + distance) / count
          let place := (place + distance) % count
          if code.isValidChar then
            insertAll fuel (adapt distance count isFirst) code (place + 1) false
              (label.insertIdx place (Char.ofNat code)) rest
          else none

/-- The plain characters and the written distances: what stands before the last hyphen and after
it. -/
def parts (text : List Char) : List Char × List Char :=
  let written := (text.reverse.takeWhile (· != '-')).reverse
  (text.take (text.length - written.length - 1), written)

/-- The label that a text encodes. -/
def decode? (text : List Char) : Option (List Char) :=
  let (plain, written) := parts text
  insertAll written.length firstBias firstCode 0 true plain written

end Punycode
end AlertRelay
