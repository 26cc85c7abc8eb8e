import AlertRelay.Json.Value
import AlertRelay.Text.Quoted

/-!
# Writing JSON

The compact form has a space after each comma and colon and escapes every character outside of
printable ASCII.  The literal form is the one for people: quoted texts, `None`, `True`, `False`.
-/

namespace AlertRelay
namespace Json

/-- A unit of UTF-16 as an escape. -/
def unitEscapeText (unit : Nat) : List Char := '\\' :: 'u' :: hexDigits 4 unit

def escapeChar (c : Char) : List Char :=
  if c = '"' then ['\\', '"']
  else if c = '\\' then ['\\', '\\']
  else if c = '\n' then ['\\', 'n']
  else if c = '\r' then ['\\', 'r']
  else if c = '\t' then ['\\', 't']
  else if c = '\x08' then ['\\', 'b']
  else if c = '\x0c' then ['\\', 'f']
  else if 0x20 ≤ c.toNat ∧ c.toNat < 0x7f then [c]
  else if c.toNat < 0x10000 then unitEscapeText c.toNat
  else
    let code := c.toNat - 0x10000
    unitEscapeText (0xd800 + code / 0x400) ++ unitEscapeText (0xdc00 + code % 0x400)

/-- A code point with its escape. -/
def escapePoint (point : Surrogate.Point) : List Char :=
  match point.half? with
  | some half => unitEscapeText half
  | none => escapeChar point.character

/-- A text in double quotes with its escapes. -/
def encodeText (text : String) : String :=
  String.ofList ('"' :: (Surrogate.points text).flatMap escapePoint ++ ['"'])

def encodeReal : Double → String
  | .nan => "NaN"
  | .infinite negative => if negative then "-Infinity" else "Infinity"
  | value => value.text

mutual

/-- The compact form. -/
def encode : Json → String
  | .null => "null"
  | .bool value => if value then "true" else "false"
  | .integer value => toString value
  | .real value => encodeReal value
  | .text value => encodeText value
  | .list items => "[" ++ String.intercalate ", " (encodeItems items) ++ "]"
  | .object members => "\x7b" ++ String.intercalate ", " (encodeMembers members) ++ "\x7d"

def encodeItems : List Json → List String
  | [] => []
  | item :: rest => encode item :: encodeItems rest

def encodeMembers : List (String × Json) → List String
  | [] => []
  | (name, value) :: rest => (encodeText name ++ ": " ++ encode value) :: encodeMembers rest

end

mutual

/-- The literal form. -/
def literal : Json → String
  | .null => "None"
  | .bool value => if value then "True" else "False"
  | .integer value => toString value
  | .real value => value.text
  | .text value => quoted value
  | .list items => "[" ++ String.intercalate ", " (literalItems items) ++ "]"
  | .object members => "\x7b" ++ String.intercalate ", " (literalMembers members) ++ "\x7d"

def literalItems : List Json → List String
  | [] => []
  | item :: rest => literal item :: literalItems rest

def literalMembers : List (String × Json) → List String
  | [] => []
  | (name, value) :: rest => (quoted name ++ ": " ++ literal value) :: literalMembers rest

end

/-- The value as part of a sentence: a text as it is, and any other value in its literal form. -/
def display : Json → String
  | .text value => value
  | value => value.literal

end Json
end AlertRelay
