import AlertRelay.Failure.Basic
import AlertRelay.Schema.Scalar
import AlertRelay.Time.Iso

/-!
# Attributes of stored items

An item is an object of attributes, and an attribute is an object with its value under the letter
of its type.  Items that somebody else wrote may have any shape, and reading them fails with a
reason.
-/

namespace AlertRelay
namespace Attribute

/-- An attribute that holds a text. -/
def ofText (value : String) : Json := .object [("S", .text value)]

/-- An attribute that holds a number. -/
def ofInteger (value : Int) : Json := .object [("N", .text (toString value))]

/-- The value of a member or a default for it. -/
def getOr (data : Json) (name : String) (default : Json) : Except Failure Json :=
  match data with
  | .object members => .ok ((members.lookup name).getD default)
  | other => .error (.shape (.noMembers other.typeName))

/-- The value of a member that has to be there. -/
def getRequired (data : Json) (name : String) : Except Failure Json :=
  match data with
  | .object members =>
      match members.lookup name with
      | some value => .ok value
      | none => .error (.shape (.memberMissing name))
  | .text _ => .error (.shape .textIndexed)
  | .list _ => .error (.shape .listIndexed)
  | other => .error (.shape (.notIndexed other.typeName))

/-- The text value of an attribute, or a default for it. -/
def textOr (item : Json) (name : String) (default : Json) : Except Failure Json := do
  let held ← getOr item name (.object [])
  getOr held "S" default

/-- The text value of an attribute that has to be there. -/
def textRequired (item : Json) (name : String) : Except Failure Json := do
  let held ← getRequired item name
  getRequired held "S"

/-- The item in the answer of a service, when there is one. -/
def itemOf (response : Json) : Except Failure (Option Json) := do
  let response := if response.isTruthy then response else .object []
  let item ← getOr response "Item" .null
  return if item.isTruthy then some item else none

end Attribute
end AlertRelay
