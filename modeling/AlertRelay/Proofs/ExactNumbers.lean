import AlertRelay.Number.Double
import Mathlib.Algebra.Order.Field.Power
import Mathlib.Data.Rat.Cast.Order
import Mathlib.Tactic.FieldSimp
import Mathlib.Tactic.Linarith
import Mathlib.Tactic.NormNum
import Mathlib.Tactic.Positivity
import Mathlib.Tactic.Ring

/-!
# Numbers that are held exactly

A product or an integer that a number can have as its value is not rounded: it is the value of the
number that arithmetic gives.
-/

namespace AlertRelay
namespace Double

def signed (negative : Bool) (size : ℚ) : ℚ := if negative then -size else size

/-- The rational that a finite number is. -/
def value? : Double → Option ℚ
  | .finite negative mantissa exponent => some (signed negative (mantissa * 2 ^ exponent))
  | _ => none

/-- The sizes that a number can have. -/
def IsSize (size : ℚ) : Prop :=
  ∃ (mantissa : ℕ) (exponent : ℤ), mantissa < 2 ^ 53 ∧ minExponent ≤ exponent ∧
    exponent ≤ maxExponent ∧ size = mantissa * 2 ^ exponent

/-- The number with the value has no need to be rounded. -/
def Holds (value : ℚ) : Prop := IsSize |value|

end Double
end AlertRelay
