import AlertRelay.Proofs.Entries
import AlertRelay.Proofs.ProgramExecution

/-!
# Values that passed their checks

A reading that is valid has valid parts, and a computation that succeeds has successful parts.
Conversely, a value that was written into data is read back: a scalar, the items of a collection,
or a member, whatever other members stand beside it.
-/

namespace AlertRelay

/-- A successful composition went on from a success. -/
theorem except_bind_eq_ok {ε α β : Type} {result : Except ε α} {next : α → Except ε β}
    {value : β} :
    (result >>= next) = .ok value ↔ ∃ middle, result = .ok middle ∧ next middle = .ok value := by
  cases result with
  | ok middle => exact ⟨fun same => ⟨middle, rfl, same⟩, fun ⟨_, rfl, same⟩ => same⟩
  | error fault =>
      constructor
      · intro same
        cases same
      · rintro ⟨_, same, _⟩
        cases same

namespace Checked

variable {α β : Type}

@[simp]
theorem map_eq_valid {f : α → β} {checked : Checked α} {value : β} :
    f <$> checked = .valid value ↔ ∃ given, checked = .valid given ∧ f given = value := by
  change checked.map f = .valid value ↔ _
  cases checked <;> simp [Checked.map]

@[simp]
theorem seq_eq_valid {f : Checked (α → β)} {argument : Checked α} {value : β} :
    f <*> argument = .valid value ↔
      ∃ function given, f = .valid function ∧ argument = .valid given ∧ function given = value := by
  change f.apply argument = .valid value ↔ _
  cases f <;> cases argument <;> simp [Checked.apply]

@[simp]
theorem within_eq_valid {name : String} {checked : Checked α} {value : α} :
    checked.within name = .valid value ↔ checked = .valid value := by
  cases checked <;> simp [within]

@[simp]
theorem orFail_eq_ok {model : String} {checked : Checked α} {value : α} :
    checked.orFail model = .ok value ↔ checked = .valid value := by
  cases checked <;> simp [orFail]

theorem andThen_eq_valid {checked : Checked α} {check : α → Checked β} {value : β} :
    checked.andThen check = .valid value ↔
      ∃ given, checked = .valid given ∧ check given = .valid value := by
  cases checked <;> simp [andThen]

theorem ofReading_eq_valid {input : Json} {reading : Except IssueKind α} {value : α} :
    ofReading input reading = .valid value ↔ reading = .ok value := by
  cases reading <;> simp [ofReading, issue]

@[simp]
theorem map_valid (f : α → β) (value : α) : f <$> valid value = valid (f value) :=
  rfl

@[simp]
theorem valid_seq (f : α → β) (value : α) : valid f <*> valid value = valid (f value) :=
  rfl

@[simp]
theorem valid_within (name : String) (value : α) : (valid value).within name = valid value :=
  rfl

@[simp]
theorem valid_andThen (value : α) (check : α → Checked β) :
    (valid value).andThen check = check value :=
  rfl

end Checked

/-! ## Scalars and collections -/

namespace Scalar

variable {α : Type}

@[simp]
theorem text_text (value : String) : text (.text value) = .valid value :=
  rfl

@[simp]
theorem integer_integer (value : Int) : integer (.integer value) = .valid value :=
  rfl

@[simp]
theorem record_object (model : String) (members : Members) :
    record model (.object members) = .valid members :=
  rfl

/-- A value is found among all values by its name, which no other one has. -/
theorem choice_name {values : List α} {name : α → String} (distinct : name.Injective) {value : α}
    (listed : value ∈ values) : choice values name (.text (name value)) = .valid value := by
  have present : (values.find? fun other => name other == name value).isSome :=
    List.find?_isSome.mpr ⟨value, listed, beq_self_eq_true _⟩
  obtain ⟨found, first⟩ := Option.isSome_iff_exists.mp present
  have named := List.find?_some first
  have same : found = value := distinct (beq_iff_eq.mp named)
  simp [choice, first, same, orIssue, Checked.ofReading]

/-- A list is read back when each of its items is. -/
theorem list_map {write : α → Json} {read : Json → Checked α} {items : List α}
    (readable : ∀ item ∈ items, read (write item) = .valid item) :
    list read (.list (items.map write)) = .valid items := by
  have fromPlace (place : Nat) :
      Checked.all (((items.map write).zipIdx place).map fun item =>
        (read item.1).within (toString item.2)) = .valid items := by
    induction items generalizing place with
    | nil => rfl
    | cons item rest ih =>
        have later := ih (fun other member => readable other (List.mem_cons_of_mem _ member))
          (place + 1)
        simp only [List.map_cons, List.zipIdx_cons, Checked.all,
          readable item List.mem_cons_self, later]
        rfl
  exact fromPlace 0

end Scalar

/-- An object of texts is a map of texts. -/
theorem Scalar.textMap_texts (texts : List (String × String)) :
    Scalar.textMap (.object (texts.map fun entry => (entry.1, .text entry.2))) = .valid texts := by
  rw [Scalar.textMap]
  induction texts with
  | nil => rfl
  | cons entry rest ih =>
      rw [List.map_cons, List.map_cons, Checked.all, ih]
      rfl

/-! ## Members -/

namespace Members

variable {α : Type} {members fields : Members} {name : String}

/-- Each of the fields is found among the members. -/
def Holds (members fields : Members) : Prop :=
  ∀ field ∈ fields, members.lookup field.1 = some field.2

/-- Fields with different names are found, whatever stands behind them. -/
theorem holds_append (distinct : (fields.map Prod.fst).Nodup) (more : Members) :
    Holds (fields ++ more) fields := by
  intro field member
  rw [List.lookup_append, lookup_of_mem distinct member, Option.some_or]

theorem Holds.left {others : Members} (held : Holds members (fields ++ others)) :
    Holds members fields :=
  fun field member => held field (List.mem_append_left others member)

theorem Holds.right {others : Members} (held : Holds members (others ++ fields)) :
    Holds members fields :=
  fun field member => held field (List.mem_append_right others member)

theorem required_of_lookup {data : Json} {read : Json → Checked α} {value : α}
    (found : members.lookup name = some data) (readable : read data = .valid value) :
    members.required name read = .valid value := by
  rw [required, found]
  simp [readable]

theorem withDefault_of_lookup {data : Json} {read : Json → Checked α} {value absent : α}
    (found : members.lookup name = some data) (readable : read data = .valid value) :
    members.withDefault name absent read = .valid value := by
  rw [withDefault, found]
  simp [readable]

/-- A member that is written as null when it is absent is read back. -/
theorem optional_of_lookup {write : α → Json} {read : Json → Checked α} {value : Option α}
    (found : members.lookup name = some ((value.map write).getD .null))
    (readable : ∀ given ∈ value, read (write given) = .valid given ∧ write given ≠ .null) :
    members.optional name read = .valid value := by
  cases value with
  | none =>
      rw [optional, found]
      rfl
  | some given =>
      obtain ⟨valid, present⟩ := readable given rfl
      rw [optional, found]
      split
      · rename_i null
        exact absurd (Option.some.inj null) present
      · rename_i data same
        rw [← Option.some.inj same, Option.map_some, Option.getD_some, valid]
        rfl
      · rename_i missing
        cases missing

end Members

theorem Json.ofText?_eq (value : Option String) :
    Json.ofText? value = (value.map Json.text).getD .null := by
  cases value <;> rfl

theorem Members.optionalText_of_lookup {members : Members} {name : String} {value : Option String}
    (found : members.lookup name = some (Json.ofText? value)) :
    members.optional name Scalar.text = .valid value := by
  rw [Json.ofText?_eq] at found
  exact optional_of_lookup found fun _ _ => ⟨rfl, nofun⟩

/-! ## Programs -/

namespace Program

variable {α : Type}

/-- Checked data ends a program without exchanges. -/
theorem ends_ofChecked_ok {model : String} {checked : Checked α} {exchanges : List Exchange}
    {value : α} :
    (ofChecked model checked).Ends exchanges (.ok value) ↔
      exchanges = [] ∧ checked = .valid value := by
  rw [ofChecked, ends_ofExcept, eq_comm (a := Except.ok value), Checked.orFail_eq_ok]

end Program
end AlertRelay
