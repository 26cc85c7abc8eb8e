import AlertRelay.Json.Value

/-!
# Entries with keys

What is found under a key among entries, and lists of entries in which values are set: under a key
stands the value that was set last, and a key that is not there yet comes last.
-/

namespace AlertRelay

/-! ## Entries that are found -/

section Lookup

variable {α β : Type} {entries : List (String × α)} {key : String} {value : α}

theorem lookup_of_not_mem (absent : key ∉ entries.map Prod.fst) : entries.lookup key = none := by
  refine List.lookup_eq_none_iff.mpr fun entry member => ?_
  have differs : key ≠ entry.1 := by
    rintro rfl
    exact absent (List.mem_map_of_mem member)
  simpa using differs

/-- Among entries with different keys, each one is found. -/
theorem lookup_of_mem (distinct : (entries.map Prod.fst).Nodup) (member : (key, value) ∈ entries) :
    entries.lookup key = some value := by
  induction entries with
  | nil => cases member
  | cons entry rest ih =>
      obtain ⟨fresh, distinct⟩ := List.nodup_cons.mp distinct
      rcases List.mem_cons.mp member with rfl | later
      · simp
      · have differs : (key == entry.1) = false :=
          beq_eq_false_iff_ne.mpr fun same => fresh (same ▸ List.mem_map_of_mem later)
        rw [List.lookup_cons, differs]
        exact ih distinct later

/-- Among entries with different keys, the order does not matter. -/
theorem lookup_reverse (distinct : (entries.map Prod.fst).Nodup) (key : String) :
    entries.reverse.lookup key = entries.lookup key := by
  induction entries with
  | nil => rfl
  | cons entry rest ih =>
      obtain ⟨name, value⟩ := entry
      obtain ⟨fresh, distinct⟩ := List.nodup_cons.mp distinct
      rw [List.reverse_cons, List.lookup_append, ih distinct]
      by_cases same : key = name
      · simp [same, lookup_of_not_mem fresh]
      · simp [List.lookup_cons, beq_eq_false_iff_ne.mpr same]

theorem lookup_filter (isKept : String → Bool) (entries : List (String × α)) (key : String) :
    (entries.filter fun entry => isKept entry.1).lookup key =
      if isKept key then entries.lookup key else none := by
  induction entries with
  | nil => simp
  | cons entry rest ih =>
      obtain ⟨name, value⟩ := entry
      by_cases same : key = name
      · by_cases kept : isKept key
        · simp [← same, kept]
        · simp [← same, kept, ih]
      · have differs : (key == name) = false := beq_eq_false_iff_ne.mpr same
        by_cases kept : isKept name <;> simp [List.lookup_cons, kept, differs, ih]

theorem lookup_map (f : String → α → β) (entries : List (String × α)) (key : String) :
    (entries.map fun entry => (entry.1, f entry.1 entry.2)).lookup key =
      (entries.lookup key).map (f key) := by
  induction entries with
  | nil => rfl
  | cons entry rest ih =>
      obtain ⟨name, value⟩ := entry
      rw [List.map_cons, List.lookup_cons, List.lookup_cons, ih]
      by_cases same : key = name
      · simp [same]
      · simp [beq_eq_false_iff_ne.mpr same]

end Lookup

/-! ## An entry that is set -/

section SetEntry

variable {α : Type} {entries : List (String × α)} {key : String} {value : α}

variable (entries key value) in
@[simp]
theorem lookup_setEntry_self : (setEntry entries key value).lookup key = some value := by
  induction entries with
  | nil => simp [setEntry]
  | cons entry rest ih =>
      obtain ⟨name, held⟩ := entry
      by_cases same : name = key
      · simp [setEntry, same]
      · have differs : (key == name) = false := beq_eq_false_iff_ne.mpr (Ne.symm same)
        simp [setEntry, same, List.lookup_cons, differs, ih]

variable (entries key value) in
theorem lookup_setEntry_of_ne {other : String} (different : other ≠ key) :
    (setEntry entries key value).lookup other = entries.lookup other := by
  have differs : (other == key) = false := beq_eq_false_iff_ne.mpr different
  induction entries with
  | nil => simp [setEntry, List.lookup_cons, differs]
  | cons entry rest ih =>
      obtain ⟨name, held⟩ := entry
      by_cases same : name = key
      · simp [setEntry, same, List.lookup_cons, differs]
      · simp [setEntry, same, List.lookup_cons, ih]

variable (value) in
/-- A key that is not there yet is added at the end. -/
theorem setEntry_of_not_mem (fresh : key ∉ entries.map Prod.fst) :
    setEntry entries key value = entries ++ [(key, value)] := by
  induction entries with
  | nil => rfl
  | cons entry rest ih =>
      rw [List.map_cons, List.mem_cons, not_or] at fresh
      rw [setEntry, if_neg (Ne.symm fresh.1), ih fresh.2, List.cons_append]

theorem mem_names_setEntry {name : String} :
    name ∈ (setEntry entries key value).map Prod.fst ↔
      name = key ∨ name ∈ entries.map Prod.fst := by
  induction entries with
  | nil => simp [setEntry]
  | cons entry rest ih =>
      rw [setEntry]
      split
      · rename_i same
        simp [← same]
      · simp only [List.map_cons, List.mem_cons, ih]
        exact or_left_comm

theorem nodup_names_setEntry (distinct : (entries.map Prod.fst).Nodup) (key : String) (value : α) :
    ((setEntry entries key value).map Prod.fst).Nodup := by
  induction entries with
  | nil => simp [setEntry]
  | cons entry rest ih =>
      rw [List.map_cons, List.nodup_cons] at distinct
      rw [setEntry]
      split
      · rename_i same
        rw [List.map_cons, List.nodup_cons, ← same]
        exact distinct
      · rename_i different
        rw [List.map_cons, List.nodup_cons, mem_names_setEntry]
        refine ⟨?_, ih distinct.2⟩
        rintro (same | member)
        · exact different same
        · exact distinct.1 member

end SetEntry

/-! ## Entries that are set one after the other -/

section SetEntries

variable {α : Type} {entries : List (String × α)}

theorem setEntries_cons (entry : String × α) (others : List (String × α)) :
    setEntries entries (entry :: others) =
      setEntries (setEntry entries entry.1 entry.2) others :=
  rfl

/-- The last entry that was set under a key counts. -/
theorem lookup_setEntries (written : List (String × α)) (key : String) :
    (setEntries entries written).lookup key =
      (written.reverse.lookup key).or (entries.lookup key) := by
  induction written generalizing entries with
  | nil => rfl
  | cons entry rest ih =>
      obtain ⟨name, value⟩ := entry
      have step : setEntries entries ((name, value) :: rest) =
          setEntries (setEntry entries name value) rest :=
        rfl
      rw [step, ih, List.reverse_cons, List.lookup_append, Option.or_assoc]
      congr 1
      by_cases same : key = name
      · subst same
        simp
      · simp [lookup_setEntry_of_ne _ _ _ same, List.lookup_cons, beq_eq_false_iff_ne.mpr same]

theorem nodup_names_setEntries (distinct : (entries.map Prod.fst).Nodup)
    (written : List (String × α)) : ((setEntries entries written).map Prod.fst).Nodup := by
  induction written generalizing entries with
  | nil => exact distinct
  | cons entry rest ih => exact ih (nodup_names_setEntry distinct entry.1 entry.2)

theorem mem_names_setEntries {others : List (String × α)} {name : String} :
    name ∈ (setEntries entries others).map Prod.fst ↔
      name ∈ entries.map Prod.fst ∨ name ∈ others.map Prod.fst := by
  induction others generalizing entries with
  | nil => simp [setEntries]
  | cons entry rest ih =>
      rw [setEntries_cons, ih, mem_names_setEntry, List.map_cons, List.mem_cons, or_assoc,
        or_left_comm]

/-- Entries with new keys, all of them different, are added at the end. -/
theorem setEntries_eq_append {others : List (String × α)}
    (distinct : ((entries ++ others).map Prod.fst).Nodup) :
    setEntries entries others = entries ++ others := by
  induction others generalizing entries with
  | nil => exact (List.append_nil entries).symm
  | cons entry rest ih =>
      have fresh : entry.1 ∉ entries.map Prod.fst := by
        rw [List.map_append, List.nodup_append] at distinct
        exact fun member => distinct.2.2 _ member _ List.mem_cons_self rfl
      rw [List.append_cons] at distinct ⊢
      rw [setEntries_cons, setEntry_of_not_mem _ fresh]
      exact ih distinct

end SetEntries
end AlertRelay
