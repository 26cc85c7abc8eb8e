import AlertRelay.Schema.Issue

/-!
# Checked values

Reading a value from data either succeeds or lists every issue of the data, each with the path to
the part that it concerns.  The parts of a record are read independently of each other, so reading
is applicative but not monadic.
-/

namespace AlertRelay

/-- A value, or at least one issue. -/
inductive Checked (α : Type) where
  | valid (value : α)
  | invalid (first : Issue) (more : List Issue)

namespace Checked

variable {α β : Type}

/-- A single issue with the data itself. -/
def issue (kind : IssueKind) (input : Json) : Checked α := .invalid ⟨[], kind, input⟩ []

def map (f : α → β) : Checked α → Checked β
  | .valid value => .valid (f value)
  | .invalid first more => .invalid first more

/-- The issues of both parts, in order. -/
def apply (f : Checked (α → β)) (argument : Checked α) : Checked β :=
  match f, argument with
  | .valid f, .valid value => .valid (f value)
  | .valid _, .invalid first more => .invalid first more
  | .invalid first more, .valid _ => .invalid first more
  | .invalid first more, .invalid second others => .invalid first (more ++ second :: others)

instance : Applicative Checked where
  pure := .valid
  map := map
  seq f argument := apply f (argument ())

/-- The issues of a part, seen from the whole. -/
def within (name : String) : Checked α → Checked α
  | .valid value => .valid value
  | .invalid first more =>
      .invalid { first with path := name :: first.path }
        (more.map fun issue => { issue with path := name :: issue.path })

/-- A further check on a valid value. -/
def andThen (checked : Checked α) (check : α → Checked β) : Checked β :=
  match checked with
  | .valid value => check value
  | .invalid first more => .invalid first more

/-- What reading the data gave. -/
def ofReading (input : Json) : Except IssueKind α → Checked α
  | .ok value => .valid value
  | .error kind => issue kind input

def issues : Checked α → List Issue
  | .valid _ => []
  | .invalid first more => first :: more

def value? : Checked α → Option α
  | .valid value => some value
  | .invalid .. => none

/-- The values of all parts, or the issues of all of them. -/
def all : List (Checked α) → Checked (List α)
  | [] => .valid []
  | first :: rest => apply (map List.cons first) (all rest)

end Checked

/-- The members of a record that is being read. -/
abbrev Members := List (String × Json)

namespace Members

variable {α : Type}

/-- A member that has to be there. -/
def required (members : Members) (name : String) (read : Json → Checked α) : Checked α :=
  match members.lookup name with
  | some value => (read value).within name
  | none => (Checked.issue .missing (.object members)).within name

/-- A member that has a default value. -/
def withDefault (members : Members) (name : String) (value : α) (read : Json → Checked α) :
    Checked α :=
  match members.lookup name with
  | some data => (read data).within name
  | none => .valid value

/-- A member that may be absent or null. -/
def optional (members : Members) (name : String) (read : Json → Checked α) :
    Checked (Option α) :=
  match members.lookup name with
  | some .null => .valid none
  | some data => ((read data).map some).within name
  | none => .valid none

end Members
end AlertRelay
