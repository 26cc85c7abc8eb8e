import AlertRelay.Text.CodePoints
import AlertRelay.Text.Split

/-!
# Numeric hosts

The forms of numeric addresses that may stand for a host.
-/

namespace AlertRelay
namespace Host

/-- A decimal number up to 255 without leading zeros. -/
def isOctet (text : List Char) : Bool :=
  !text.isEmpty && text.all Char.isDigit && text.length ≤ 3 &&
    (text == ['0'] || text.head? != some '0') &&
    text.foldl (fun value c => value * 10 + (c.toNat - '0'.toNat)) 0 ≤ 255

/-- Four octets with points between them. -/
def isVersion4 (text : List Char) : Bool :=
  let octets := splitEvery '.' text
  octets.length == 4 && octets.all isOctet

/-- One to four hexadecimal digits. -/
def isGroup (text : List Char) : Bool :=
  !text.isEmpty && text.length ≤ 4 && text.all fun c => (hexValue? c).isSome

/-- The positions of the empty groups that are neither first nor last. -/
def innerGaps (groups : List (List Char)) : List Nat :=
  (List.range (groups.length - 1)).filter fun place =>
    decide (0 < place) && groups[place]?.any List.isEmpty

/-- Whether groups form an address: eight of them, or fewer around a single gap.  An empty first
or last group belongs to a gap at that end. -/
def areGroups (groups : List (List Char)) : Bool :=
  match innerGaps groups with
  | [] => groups.length == 8 && groups.all isGroup
  | [gap] =>
      let before := groups.take gap
      let after := groups.drop (gap + 1)
      let before' := if before.head?.any List.isEmpty then before.drop 1 else before
      let after' := if after.getLast?.any List.isEmpty then after.dropLast else after
      (before'.length == before.length || before'.isEmpty) &&
        (after'.length == after.length || after'.isEmpty) &&
        decide (before'.length + after'.length < 8) && before'.all isGroup && after'.all isGroup
  | _ => false

/-- The groups of an address; an address of version four at the end counts as two of them. -/
def groups? (text : List Char) : Option (List (List Char)) :=
  let groups := splitEvery ':' text
  match groups.getLast? with
  | some last =>
      if last.contains '.' then
        if isVersion4 last then some (groups.dropLast ++ [['0'], ['0']]) else none
      else some groups
  | none => none

/-- Whether a text is an address of version six, possibly with a zone after a percent sign. -/
def isVersion6 (text : List Char) : Bool :=
  let (address, zoneFits) :=
    match splitFirst? '%' text with
    | some (address, zone) => (address, !zone.isEmpty && !zone.contains '%')
    | none => (text, true)
  zoneFits && !text.contains '/' && decide (3 ≤ (splitEvery ':' address).length) &&
    match groups? address with
    | some groups => decide (groups.length ≤ 9) && areGroups groups
    | none => false

/-- Whether a text is an address of a later version: `v`, a hexadecimal number, a point and at
least one more character. -/
def isLaterVersion (text : List Char) : Bool :=
  match text with
  | 'v' :: rest =>
      let version := rest.takeWhile fun c => (hexValue? c).isSome
      match rest.drop version.length with
      | '.' :: _ :: _ => !version.isEmpty
      | _ => false
  | _ => false

end Host
end AlertRelay
