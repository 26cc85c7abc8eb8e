import AlertRelay.Delivery.Ledger
import AlertRelay.Proofs.TextParts

/-!
# Delivery keys

The key of a delivery keeps apart all alerts and all destinations: the numeral of the alert has no
separator in it, and the mark before the name of the destination tells its kind.
-/

namespace AlertRelay

private theorem isDigit_of_mem_toDigits {number : Nat} {c : Char}
    (digit : c ∈ Nat.toDigits 10 number) : c.isDigit :=
  Nat.isDigit_of_mem_toDigits (by decide) (by decide) digit

private theorem minus_not_mem_toDigits (number : Nat) : '-' ∉ Nat.toDigits 10 number := by
  intro member
  have digit := isDigit_of_mem_toDigits member
  exact absurd digit (by decide)

private theorem toDigits_injective {one two : Nat}
    (same : Nat.toDigits 10 one = Nat.toDigits 10 two) : one = two := by
  rw [← Nat.ofDigitChars_ten_toDigits (n := one), same, Nat.ofDigitChars_ten_toDigits]

/-- The numeral of an integer: the digits of its size, with a sign when it is negative. -/
theorem toList_toString_int (number : Int) :
    (toString number).toList =
      if 0 ≤ number then Nat.toDigits 10 number.toNat
      else '-' :: Nat.toDigits 10 (-number).toNat := by
  rw [Int.toString_eq_repr, Int.repr_eq_if]
  split
  · exact Nat.toList_repr
  · rw [String.toList_append, Nat.toList_repr]
    rfl

/-- Different integers have different numerals. -/
theorem toString_int_injective {one two : Int} (same : toString one = toString two) :
    one = two := by
  have lists := congrArg String.toList same
  rw [toList_toString_int, toList_toString_int] at lists
  split at lists <;> rename_i signOne <;> split at lists <;> rename_i signTwo
  · have sizes := toDigits_injective lists
    omega
  · exact absurd (lists ▸ List.mem_cons_self) (minus_not_mem_toDigits one.toNat)
  · exact absurd (lists.symm ▸ List.mem_cons_self) (minus_not_mem_toDigits two.toNat)
  · have sizes := toDigits_injective (List.cons.inj lists).2
    omega

theorem separator_not_mem_toString_int (number : Int) : '#' ∉ (toString number).toList := by
  have noDigit (size : Nat) : '#' ∉ Nat.toDigits 10 size := by
    intro member
    exact absurd (isDigit_of_mem_toDigits member) (by decide)
  rw [toList_toString_int]
  split
  · exact noDigit _
  · simpa using noDigit _

private theorem takeWhile_before_separator {before after : List Char} (free : '#' ∉ before) :
    (before ++ "#".toList ++ after).takeWhile (· != '#') = before := by
  rw [List.append_assoc]
  exact (cut_before free).takeWhile_eq

namespace DestinationId

/-- Different destinations have different texts. -/
theorem text_injective {one two : DestinationId} (same : one.text = two.text) : one = two := by
  cases one with
  | contactMethod id nonempty =>
      cases two with
      | contactMethod other otherNonempty =>
          obtain rfl : id = other := (String.append_right_inj "cm:").mp same
          rfl
      | channel other otherNonempty =>
          have lists := congrArg String.toList same
          simp [text] at lists
  | channel id nonempty =>
      cases two with
      | contactMethod other otherNonempty =>
          have lists := congrArg String.toList same
          simp [text] at lists
      | channel other otherNonempty =>
          obtain rfl : id = other := (String.append_right_inj "nc:").mp same
          rfl

end DestinationId

/-- A delivery key determines its alert and its destination. -/
theorem deliveryKey_inj {alertId otherId : Int} {destination other : DestinationId} :
    deliveryKey alertId destination = deliveryKey otherId other ↔
      alertId = otherId ∧ destination = other := by
  constructor
  · intro same
    have lists := congrArg String.toList same
    simp only [deliveryKey, String.toList_append] at lists
    have numerals : (toString alertId).toList = (toString otherId).toList := by
      have taken := congrArg (List.takeWhile (· != '#')) lists
      rwa [takeWhile_before_separator (separator_not_mem_toString_int _),
        takeWhile_before_separator (separator_not_mem_toString_int _)] at taken
    obtain rfl := toString_int_injective (String.toList_inj.mp numerals)
    have texts := List.append_cancel_left lists
    exact ⟨rfl, DestinationId.text_injective (String.toList_inj.mp texts)⟩
  · rintro ⟨rfl, rfl⟩
    rfl

end AlertRelay
