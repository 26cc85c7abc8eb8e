import AlertRelay.Text.Split

/-!
# Parts of texts

The parts that the splitting functions give, described without them: where a text is cut behind
the characters at its start that have a property, and where a character splits it.
-/

namespace AlertRelay

/-- A text is cut behind the characters at its start that have a property. -/
structure Cut (inside : Char → Bool) (text before after : List Char) : Prop where
  whole : text = before ++ after
  within : ∀ c ∈ before, inside c = true
  ended : ∀ c ∈ after.head?, inside c = false

section Cuts

variable {inside : Char → Bool} {c : Char} {text before after : List Char}

theorem cut_takeWhile (inside : Char → Bool) (text : List Char) :
    Cut inside text (text.takeWhile inside) (text.dropWhile inside) where
  whole := List.takeWhile_append_dropWhile.symm
  within := List.all_eq_true.mp List.all_takeWhile
  ended := by
    intro c first
    have ends := List.head?_dropWhile_not inside text
    rw [Option.mem_def.mp first] at ends
    simpa using ends

theorem Cut.takeWhile_eq (cut : Cut inside text before after) :
    text.takeWhile inside = before := by
  obtain ⟨rfl, within, ended⟩ := cut
  rw [List.takeWhile_append_of_pos within]
  cases after with
  | nil => simp
  | cons c rest => simp [ended c rfl]

theorem cut_self (absent : c ∉ text) : Cut (· != c) text text [] where
  whole := (List.append_nil text).symm
  within := fun _ member => bne_iff_ne.mpr fun same => absent (same ▸ member)
  ended := nofun

theorem cut_before (absent : c ∉ before) :
    Cut (· != c) (before ++ c :: after) before (c :: after) where
  whole := rfl
  within := fun _ member => bne_iff_ne.mpr fun same => absent (same ▸ member)
  ended := by simp

theorem Cut.not_mem (cut : Cut (· != c) text before after) : c ∉ before :=
  fun member => bne_iff_ne.mp (cut.within c member) rfl

theorem Cut.after_cases (cut : Cut (· != c) text before after) :
    after = [] ∨ ∃ rest, after = c :: rest := by
  cases after with
  | nil => exact .inl rfl
  | cons d rest =>
      obtain rfl : d = c := by simpa using cut.ended
      exact .inr ⟨rest, rfl⟩

end Cuts

/-! ## Splitting at the first place of a character -/

section FirstPlace

variable {c : Char} {text before after : List Char}

theorem splitFirst?_append (absent : c ∉ before) :
    splitFirst? c (before ++ c :: after) = some (before, after) := by
  induction before with
  | nil => simp [splitFirst?]
  | cons d rest ih =>
      have other : d ≠ c := fun same => absent (same ▸ List.mem_cons_self)
      have later : c ∉ rest := fun member => absent (List.mem_cons_of_mem _ member)
      simp [splitFirst?, ih later, other]

theorem splitFirst?_eq_none_iff : splitFirst? c text = none ↔ c ∉ text := by
  induction text with
  | nil => simp [splitFirst?]
  | cons d rest ih =>
      by_cases same : d = c
      · simp [splitFirst?, same]
      · simp [splitFirst?, same, ih, Ne.symm same]

theorem splitFirst?_eq_some_iff :
    splitFirst? c text = some (before, after) ↔ text = before ++ c :: after ∧ c ∉ before := by
  constructor
  · intro split
    by_cases member : c ∈ text
    · obtain ⟨first, last, rfl, absent⟩ := List.eq_append_cons_of_mem member
      rw [splitFirst?_append absent] at split
      cases split
      exact ⟨rfl, absent⟩
    · rw [splitFirst?_eq_none_iff.mpr member] at split
      cases split
  · rintro ⟨rfl, absent⟩
    exact splitFirst?_append absent

end FirstPlace

/-! ## Splitting at every place of a character -/

section EveryPlace

variable {c d : Char} {text : List Char}

theorem splitEvery_ne_nil (c : Char) (text : List Char) : splitEvery c text ≠ [] := by
  cases text with
  | nil => simp [splitEvery]
  | cons d rest =>
      rw [splitEvery]
      split
      · simp
      · split <;> simp

theorem splitEvery_of_not_mem (absent : c ∉ text) : splitEvery c text = [text] := by
  induction text with
  | nil => rfl
  | cons d rest ih =>
      have other : d ≠ c := fun same => absent (same ▸ List.mem_cons_self)
      have later : c ∉ rest := fun member => absent (List.mem_cons_of_mem _ member)
      simp [splitEvery, ih later, other]

theorem splitEvery_cons_of_ne (other : d ≠ c) (rest : List Char) :
    ∃ part parts, splitEvery c (d :: rest) = (d :: part) :: parts := by
  cases split : splitEvery c rest with
  | nil => exact (splitEvery_ne_nil c rest split).elim
  | cons part parts => exact ⟨part, parts, by simp [splitEvery, split, other]⟩

/-- The parts have all characters but the one at which the text is split. -/
theorem exists_part_of_mem (member : d ∈ text) (other : d ≠ c) :
    ∃ part ∈ splitEvery c text, d ∈ part := by
  induction text with
  | nil => cases member
  | cons e rest ih =>
      obtain ⟨first, parts, split⟩ := List.exists_cons_of_ne_nil (splitEvery_ne_nil c rest)
      rcases List.mem_cons.mp member with rfl | later
      · exact ⟨d :: first, by simp [splitEvery, split, other], List.mem_cons_self⟩
      · obtain ⟨part, among, inPart⟩ := ih later
        rw [split] at among
        by_cases cut : e = c
        · have kept : splitEvery c (e :: rest) = [] :: first :: parts := by
            simp [splitEvery, split, cut]
          exact ⟨part, kept ▸ List.mem_cons_of_mem _ among, inPart⟩
        · have grown : splitEvery c (e :: rest) = (e :: first) :: parts := by
            simp [splitEvery, split, cut]
          rw [grown]
          rcases List.mem_cons.mp among with rfl | behind
          · exact ⟨e :: part, List.mem_cons_self, List.mem_cons_of_mem _ inPart⟩
          · exact ⟨part, List.mem_cons_of_mem _ behind, inPart⟩

end EveryPlace
end AlertRelay
