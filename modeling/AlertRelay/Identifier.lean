import AlertRelay.Number.Digits
import AlertRelay.Text.Quoted
import AlertRelay.Text.Split

/-!
# Identifiers

A 128-bit identifier is written in groups of hexadecimal digits.  The reader also takes other
notations of the same digits: with braces, with a URN in front, and with hyphens anywhere.
-/

namespace AlertRelay

/-- A 128-bit identifier. -/
structure Identifier where
  value : Nat
deriving DecidableEq

/-- Why a text is no identifier. -/
inductive IdentifierFault where
  | length
  | digits (text : String)

/-- What is wrong, with at most 200 characters of the quoted digits. -/
def IdentifierFault.message : IdentifierFault → String
  | length => "badly formed hexadecimal UUID string"
  | digits text =>
      "invalid literal for int() with base 16: " ++ String.ofList ((quoted text).toList.take 200)

namespace Identifier

/-- The digits of a text without the marks around and between them. -/
def significant (text : String) : List Char :=
  let named := removeAll "uuid:" (removeAll "urn:" text.toList)
  (trimList (fun c => c = '\x7b' || c = '\x7d') named).filter (· != '-')

def parse (text : String) : Except IdentifierFault Identifier :=
  let digits := significant text
  if (Surrogate.pointsOf digits).length ≠ 32 then .error .length
  else
    match readInt? 16 digits with
    | some value => .ok ⟨value.toNat⟩
    | none => .error (.digits (String.ofList digits))

/-- Five groups of digits with hyphens between them. -/
def text (identifier : Identifier) : String :=
  let digits := hexDigits 32 identifier.value
  let group (start count : Nat) : String := String.ofList ((digits.drop start).take count)
  String.intercalate "-" [group 0 8, group 8 4, group 12 4, group 16 4, group 20 12]

end Identifier
end AlertRelay
