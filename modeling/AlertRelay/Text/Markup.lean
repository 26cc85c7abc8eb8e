import AlertRelay.Number.Digits

/-!
# Markup text

Character data replaces the ampersand and the two angle brackets by references, so it holds no tag.
A reader of markup finds the tags and the stretches of character data, and decodes the references.
-/

namespace AlertRelay
namespace Markup

def escapeChar (c : Char) : List Char :=
  if c = '&' then "&amp;".toList
  else if c = '<' then "&lt;".toList
  else if c = '>' then "&gt;".toList
  else [c]

/-- The character data that stands for a text. -/
def escapeList (text : List Char) : List Char := text.flatMap escapeChar

def escape (text : String) : String := String.ofList (escapeList text.toList)

/-- The characters that have names. -/
def names : List (String × Char) :=
  [("amp", '&'), ("lt", '<'), ("gt", '>'), ("quot", '"'), ("apos", '\'')]

/-- The character with a number that is written in a base. -/
def numbered? (base : Nat) (digits : List Char) : Option Char :=
  match digits.mapM (baseDigit? base) with
  | none | some [] => none
  | some values =>
      let number := ofDigits base values
      if number.isValidChar then some (Char.ofNat number) else none

/-- The character for which a reference stands: by its name, or by its number in base ten or
sixteen. -/
def referenced? : List Char → Option Char
  | '#' :: 'x' :: digits => numbered? 16 digits
  | '#' :: digits => numbered? 10 digits
  | name => names.lookup (String.ofList name)

/-- Decode character data; within a reference, `name` holds in reverse what of it was read. -/
def decodeFrom? (name : Option (List Char)) : List Char → Option (List Char)
  | [] => if name.isNone then some [] else none
  | c :: rest =>
      match name with
      | none =>
          if c = '<' then none
          else if c = '&' then decodeFrom? (some []) rest
          else (decodeFrom? none rest).map (c :: ·)
      | some name =>
          if c = ';' then
            (referenced? name.reverse).bind fun found => (decodeFrom? none rest).map (found :: ·)
          else decodeFrom? (some (c :: name)) rest

/-- The text that character data stands for.  It holds no bracket that opens a tag, and no ampersand
but those that start references. -/
def decode? (data : List Char) : Option (List Char) := decodeFrom? none data

/-- A tag with the text between its angle brackets, or a stretch of character data. -/
inductive Token where
  | tag (content : List Char)
  | characters (data : List Char)
deriving DecidableEq

/-- Read tokens, collecting the current tag or the current character data in reverse. -/
def tokensFrom (inTag : Bool) (collected : List Char) : List Char → List Token
  | [] => if !inTag && collected.isEmpty then [] else [finish]
  | c :: rest =>
      if inTag then
        if c = '>' then .tag collected.reverse :: tokensFrom false [] rest
        else tokensFrom true (c :: collected) rest
      else if c = '<' then
        if collected.isEmpty then tokensFrom true [] rest
        else .characters collected.reverse :: tokensFrom true [] rest
      else tokensFrom false (c :: collected) rest
where
  finish : Token :=
    if inTag then .tag collected.reverse else .characters collected.reverse

/-- The tags and the character data of a markup text. -/
def tokens (text : List Char) : List Token := tokensFrom false [] text

end Markup
end AlertRelay
