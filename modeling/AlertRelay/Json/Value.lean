import AlertRelay.Number.Double
import AlertRelay.Text.Surrogate

/-!
# JSON values

Objects keep the order of their members.
-/

namespace AlertRelay

/-- A JSON value; numbers with a fraction or an exponent are reals. -/
inductive Json where
  | null
  | bool (value : Bool)
  | integer (value : Int)
  | real (value : Double)
  | text (value : String)
  | list (items : List Json)
  | object (members : List (String × Json))

/-- Set the value of a key, in place when the key is present and at the end when it is not. -/
def setEntry {α : Type} (entries : List (String × α)) (key : String) (value : α) :
    List (String × α) :=
  match entries with
  | [] => [(key, value)]
  | entry :: rest =>
      if entry.1 = key then (key, value) :: rest else entry :: setEntry rest key value

/-- The entries with others set in them, one after the other. -/
def setEntries {α : Type} (entries others : List (String × α)) : List (String × α) :=
  others.foldl (fun entries entry => setEntry entries entry.1 entry.2) entries

namespace Json

instance : Inhabited Json := ⟨.null⟩

instance : Coe String Json := ⟨.text⟩

instance : Coe Int Json := ⟨.integer⟩

/-- The value of a member of an object. -/
def member? (name : String) : Json → Option Json
  | .object members => members.lookup name
  | _ => none

def members? : Json → Option (List (String × Json))
  | .object members => some members
  | _ => none

def isNull : Json → Bool
  | .null => true
  | _ => false

/-- The elements of a value: the items of a list, the names of the members of an object, or the
code points of a text. -/
def elements? : Json → Option (List Json)
  | .list items => some items
  | .object members => some (members.map fun member => .text member.1)
  | .text value =>
      some ((Surrogate.points value).map fun point => .text (Surrogate.ofPoints [point]))
  | _ => none

/-- Neither null nor false, zero, empty text, an empty list or an empty object. -/
def isTruthy : Json → Bool
  | .null => false
  | .bool value => value
  | .integer value => value != 0
  | .real value => !value.isZero
  | .text value => !value.isEmpty
  | .list items => !items.isEmpty
  | .object members => !members.isEmpty

/-- The name of the kind of value in the texts of failures. -/
def typeName : Json → String
  | .null => "NoneType"
  | .bool _ => "bool"
  | .integer _ => "int"
  | .real _ => "float"
  | .text _ => "str"
  | .list _ => "list"
  | .object _ => "dict"

/-- An optional text, null when it is absent. -/
def ofText? : Option String → Json
  | some value => .text value
  | none => .null

end Json
end AlertRelay
