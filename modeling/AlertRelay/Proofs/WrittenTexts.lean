import AlertRelay.Destination
import AlertRelay.Proofs.CheckedValues
import AlertRelay.Proofs.CodePoints

/-!
# Maps of texts as they are written

A map of texts is read back as it was written, which may not be as it was: no half of a surrogate
pair is left in its names.  Writing changes exactly the maps that have such halves in their names,
and changes nothing any more in what was written before.
-/

namespace AlertRelay

variable {texts : List (String × String)}

/-- The names are different, as those of a map are, and no half of a surrogate pair stands in
them. -/
structure ArePlain (texts : List (String × String)) : Prop where
  distinct : (texts.map Prod.fst).Nodup
  whole : ∀ entry ∈ texts, Surrogate.isIn entry.1 = false

theorem arePlain_writtenTexts (texts : List (String × String)) : ArePlain (writtenTexts texts) where
  distinct := by
    have atStart : (([] : List (String × String)).map Prod.fst).Nodup := List.nodup_nil
    exact nodup_names_setEntries atStart _
  whole entry member := by
    have named : entry.1 ∈ (writtenTexts texts).map Prod.fst := List.mem_map_of_mem member
    rw [writtenTexts, mem_names_setEntries, List.map_map] at named
    rcases named with none | given
    · cases none
    · obtain ⟨given, _, same⟩ := List.mem_map.mp given
      rw [← same]
      exact Surrogate.isIn_replaced given.1

theorem writtenTexts_of_plain (plain : ArePlain texts) : writtenTexts texts = texts := by
  have kept : texts.map (fun entry => (Surrogate.replaced entry.1, entry.2)) = texts := by
    refine (List.map_congr_left fun entry member => ?_).trans (List.map_id texts)
    rw [Surrogate.replaced_eq_self (plain.whole entry member)]
    rfl
  rw [writtenTexts, kept]
  exact setEntries_eq_append plain.distinct

/-- Only plain maps are written as they are. -/
theorem writtenTexts_eq_self_iff : writtenTexts texts = texts ↔ ArePlain texts := by
  refine ⟨fun same => ?_, writtenTexts_of_plain⟩
  rw [← same]
  exact arePlain_writtenTexts texts

theorem textMapJson_writtenTexts (texts : List (String × String)) :
    textMapJson (writtenTexts texts) = textMapJson texts := by
  rw [textMapJson, textMapJson, writtenTexts_of_plain (arePlain_writtenTexts texts)]

/-- A map is read back as it was written. -/
theorem Scalar.textMap_textMapJson (texts : List (String × String)) :
    Scalar.textMap (textMapJson texts) = .valid (writtenTexts texts) :=
  Scalar.textMap_texts (writtenTexts texts)

end AlertRelay
