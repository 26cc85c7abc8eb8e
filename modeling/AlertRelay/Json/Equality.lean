import AlertRelay.Json.Value

/-!
# Equal JSON values

Values are equal by what they denote: numbers and truth values by their numeric value, and objects
without regard to the order of their members.
-/

namespace AlertRelay
namespace Json

/-- A truth value as a number, and any other value as it is. -/
def truthAsNumber : Json → Json
  | .bool value => .integer (if value then 1 else 0)
  | value => value

/-- Whether two numbers or truth values are equal. -/
def sameNumber (first second : Json) : Bool :=
  match first.truthAsNumber, second.truthAsNumber with
  | .integer first, .integer second => first == second
  | .integer first, .real second => second.toInt? == some first
  | .real first, .integer second => first.toInt? == some second
  | .real first, .real second =>
      (first.isZero && second.isZero) || (first != .nan && first == second)
  | _, _ => false

mutual

/-- Whether two values are equal. -/
def same : Json → Json → Bool
  | .null, other => other.isNull
  | .text first, .text second => first == second
  | .list first, .list second => sameItems first second
  | .object first, .object second =>
      first.length == second.length && sameMembers first second
  | first, second => sameNumber first second

def sameItems : List Json → List Json → Bool
  | [], [] => true
  | first :: rest, second :: others => same first second && sameItems rest others
  | _, _ => false

def sameMembers : List (String × Json) → List (String × Json) → Bool
  | [], _ => true
  | (name, value) :: rest, others =>
      (match others.lookup name with
        | some other => same value other
        | none => false) && sameMembers rest others

end

end Json
end AlertRelay
