import AlertRelay.Text.Surrogate
import Mathlib.Data.List.Basic

/-!
# Code points of texts

Every sequence of code points is that of a text, halves of surrogate pairs included, so texts keep
halves and characters apart.  Replacing halves replaces their code points only, and leaves none.
-/

namespace AlertRelay
namespace Surrogate

/-! ## Points -/

section Points

variable {c : Char} {chars : List Char}

theorem pointsOf_cons (unmarked : c ≠ mark) (rest : List Char) :
    pointsOf (c :: rest) = .plain c :: pointsOf rest := by
  cases rest with
  | nil => rfl
  | cons d rest => rw [pointsOf, if_neg unmarked]

theorem pointsOf_mark (c : Char) (rest : List Char) :
    pointsOf (mark :: c :: rest) = .marked c :: pointsOf rest := by
  rw [pointsOf, if_pos rfl]

/-- Points that are read off characters are made up of them. -/
theorem flatMap_chars_pointsOf (chars : List Char) :
    (pointsOf chars).flatMap Point.chars = chars := by
  fun_induction pointsOf chars with
  | case1 => rfl
  | case2 c => rfl
  | case3 d rest ih => simp [Point.chars, ih]
  | case4 c d rest unmarked ih => simp [Point.chars, ih]

theorem ne_mark_of_ascii (ascii : c.toNat < 128) : c ≠ mark := by
  rintro rfl
  exact absurd ascii (by decide)

theorem pointsOf_ascii (ascii : ∀ c ∈ chars, c.toNat < 128) :
    pointsOf chars = chars.map .plain := by
  induction chars with
  | nil => rfl
  | cons c rest ih =>
      rw [List.forall_mem_cons] at ascii
      rw [pointsOf_cons (ne_mark_of_ascii ascii.1), ih ascii.2, List.map_cons]

end Points

/-! ## Codes of points -/

theorem isHalf_iff {code : Nat} : isHalf code = true ↔ 0xd800 ≤ code ∧ code < 0xe000 := by
  simp only [isHalf, isHigh, isLow, Bool.or_eq_true, Bool.and_eq_true, decide_eq_true_eq]
  omega

/-- No character is half of a surrogate pair. -/
theorem isHalf_toNat (c : Char) : isHalf c.toNat = false := by
  refine Bool.eq_false_iff.mpr fun half => ?_
  have within := isHalf_iff.mp half
  have valid : c.toNat < 0xd800 ∨ 0xdfff < c.toNat ∧ c.toNat < 0x110000 := c.valid
  omega

theorem toNat_ofNat {code : Nat} (valid : code.isValidChar) : (Char.ofNat code).toNat = code := by
  rw [Char.ofNat, dif_pos valid]
  rfl

theorem toNat_standIn {half : Nat} (isHalf : isHalf half = true) :
    (standIn half).toNat = distance + half := by
  have within := isHalf_iff.mp isHalf
  refine toNat_ofNat (.inr ?_)
  rw [distance]
  omega

theorem standIn_ne_mark {half : Nat} (isHalf : isHalf half = true) : standIn half ≠ mark := by
  intro same
  have within := isHalf_iff.mp isHalf
  have number := toNat_standIn isHalf
  have marked : mark.toNat = 0xdffff := rfl
  rw [same, marked, distance] at number
  omega

namespace Point

variable {point : Point} {code : Nat}

theorem isHalf_of_half? {half : Nat} (stands : point.half? = some half) : isHalf half = true := by
  cases point with
  | plain c =>
      simp only [half?, halfOf?, Option.ite_none_right_eq_some, Option.some.injEq] at stands
      obtain ⟨isHalf, rfl⟩ := stands
      exact isHalf
  | marked c => cases stands

theorem isHalf_code : isHalf point.code = point.half?.isSome := by
  cases stands : point.half? with
  | none => rw [Point.code, stands, Option.getD_none, isHalf_toNat, Option.isSome_none]
  | some half =>
      rw [Point.code, stands, Option.getD_some, isHalf_of_half? stands, Option.isSome_some]

/-- Characters below those that stand for halves are their own code points. -/
theorem code_plain {c : Char} (below : c.toNat ≤ distance) : (plain c).code = c.toNat := by
  have noHalf : (plain c).half? = none := by
    simp [half?, halfOf?, Nat.sub_eq_zero_of_le below, isHalf, isHigh, isLow]
  rw [Point.code, noHalf, Option.getD_none, character]

theorem code_ofCode (isCode : code < 0x110000) : (ofCode code).code = code := by
  rw [ofCode]
  split
  · rename_i half
    have stands : (plain (standIn code)).half? = some code := by
      simp [half?, halfOf?, toNat_standIn half, half]
    rw [Point.code, stands, Option.getD_some]
  · rename_i whole
    have number : (Char.ofNat code).toNat = code := by
      have bounds := mt isHalf_iff.mpr whole
      exact toNat_ofNat (by rw [Nat.isValidChar]; omega)
    rw [ofCharacter]
    split
    · exact number
    · rename_i free
      rw [isReserved, Bool.or_eq_true, not_or, Option.not_isSome_iff_eq_none] at free
      rw [Point.code, half?, free.2, Option.getD_none, character, number]

/-- A code point in front of others is read off as it was written. -/
theorem pointsOf_chars_append (code : Nat) (rest : List Char) :
    pointsOf ((ofCode code).chars ++ rest) = ofCode code :: pointsOf rest := by
  rw [ofCode]
  split
  · rename_i half
    exact pointsOf_cons (standIn_ne_mark half) rest
  · rw [ofCharacter]
    split
    · exact pointsOf_mark _ rest
    · rename_i free
      refine pointsOf_cons (fun same => ?_) rest
      simp [isReserved, same] at free

end Point

/-- Every sequence of code points is that of a text. -/
theorem codePoints_ofCodePoints {codes : List Nat} (areCodes : ∀ code ∈ codes, code < 0x110000) :
    codePoints (ofCodePoints codes) = codes := by
  rw [codePoints, points, ofCodePoints, ofPoints, String.toList_ofList]
  induction codes with
  | nil => rfl
  | cons code rest ih =>
      rw [List.forall_mem_cons] at areCodes
      rw [List.map_cons, List.flatMap_cons, Point.pointsOf_chars_append, List.map_cons,
        ih areCodes.2, Point.code_ofCode areCodes.1]

theorem codePoints_ascii {text : String} (ascii : ∀ c ∈ text.toList, c.toNat < 128) :
    codePoints text = text.toList.map Char.toNat := by
  rw [codePoints, points, pointsOf_ascii ascii, List.map_map]
  refine List.map_congr_left fun c member => ?_
  have below : c.toNat ≤ distance := Nat.le_trans (Nat.le_of_lt (ascii c member)) (by decide)
  rw [Function.comp, Point.code_plain below]

theorem not_isIn_of_ascii {text : String} (ascii : ∀ c ∈ text.toList, c.toNat < 128) :
    isIn text = false := by
  rw [isIn, codePoints_ascii ascii]
  refine List.any_eq_false.mpr fun code member => ?_
  obtain ⟨c, _, rfl⟩ := List.mem_map.mp member
  exact Bool.eq_false_iff.mp (isHalf_toNat c)

/-! ## Replaced halves -/

/-- The codes that stand where a code point was. -/
def replacedCode (code : Nat) : List Nat :=
  if isHalf code then List.replicate 3 replacement.toNat else [code]

theorem map_code_replaced_append {point : Point} {rest : List Char}
    (proper : point = .plain mark → rest = []) :
    (pointsOf (point.replaced ++ rest)).map Point.code =
      replacedCode point.code ++ (pointsOf rest).map Point.code := by
  rw [replacedCode, Point.isHalf_code, Point.replaced]
  split
  · have whole : replacement ≠ mark := by decide
    have code : (Point.plain replacement).code = replacement.toNat := Point.code_plain (by decide)
    simp only [List.replicate, List.cons_append, List.nil_append, pointsOf_cons whole,
      List.map_cons, code]
  · cases point with
    | plain c =>
        by_cases marked : c = mark
        · rw [proper (by rw [marked])]
          rfl
        · rw [Point.chars, List.singleton_append, pointsOf_cons marked]
          rfl
    | marked c =>
        rw [Point.chars, List.cons_append, List.singleton_append, pointsOf_mark]
        rfl

theorem codePoints_replaced (text : String) :
    codePoints (replaced text) = (codePoints text).flatMap replacedCode := by
  rw [codePoints, codePoints, points, points, replaced, points, String.toList_ofList]
  fun_induction pointsOf text.toList with
  | case1 => rfl
  | case2 c =>
      rw [List.flatMap_cons, map_code_replaced_append fun _ => List.flatMap_nil]
      rfl
  | case3 d rest ih =>
      have proper : Point.marked d ≠ .plain mark := nofun
      rw [List.flatMap_cons, map_code_replaced_append fun same => absurd same proper, ih,
        List.map_cons, List.flatMap_cons]
  | case4 c d rest unmarked ih =>
      have proper : Point.plain c ≠ .plain mark := fun same => unmarked (Point.plain.inj same)
      rw [List.flatMap_cons, map_code_replaced_append fun same => absurd same proper, ih,
        List.map_cons, List.flatMap_cons]

theorem not_isHalf_of_replacedCode {code other : Nat} (member : other ∈ replacedCode code) :
    isHalf other = false := by
  rw [replacedCode] at member
  split at member
  · rw [List.eq_of_mem_replicate member]
    decide
  · rename_i whole
    rw [List.mem_singleton.mp member]
    exact Bool.eq_false_iff.mpr whole

theorem isIn_replaced (text : String) : isIn (replaced text) = false := by
  rw [isIn, codePoints_replaced]
  refine List.any_eq_false.mpr fun code member => ?_
  obtain ⟨_, _, among⟩ := List.mem_flatMap.mp member
  rw [not_isHalf_of_replacedCode among]
  exact Bool.false_ne_true

theorem replaced_eq_self {text : String} (whole : isIn text = false) : replaced text = text := by
  have kept : ∀ point ∈ points text, point.replaced = point.chars := by
    intro point member
    have noHalf : ¬ isHalf point.code = true :=
      List.any_eq_false.mp whole point.code (List.mem_map_of_mem member)
    rw [Point.isHalf_code] at noHalf
    rw [Point.replaced, if_neg noHalf]
  rw [replaced, List.flatMap_congr kept, points, flatMap_chars_pointsOf, String.ofList_toList]

end Surrogate
end AlertRelay
