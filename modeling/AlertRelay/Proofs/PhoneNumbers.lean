import AlertRelay.Channel.Sms
import AlertRelay.Proofs.TextParts

/-!
# Phone numbers

Every number in the international form is accepted as a phone number.  So are two kinds of texts
that are not in this form: those with digits of other scripts after the first digit, and those with
a line end after the last one.  Everything else is refused as a faulty field.
-/

namespace AlertRelay
namespace Telephony

/-- A number in the international form: a plus sign and two to fifteen ASCII digits, of which the
first is not zero. -/
def IsInternational (text : List Char) : Prop :=
  ∃ digits, text = '+' :: digits ∧ 2 ≤ digits.length ∧ digits.length ≤ 15 ∧
    (∀ c ∈ digits, c.isDigit = true) ∧ digits.head? ≠ some '0'

/-- A plus sign, an ASCII digit other than zero, and one to fourteen digits of a class. -/
inductive IsNumber (isDigit : Char → Bool) : List Char → Prop
  | intro {first : Char} {rest : List Char} (leading : '1' ≤ first ∧ first ≤ '9')
      (several : 1 ≤ rest.length) (few : rest.length ≤ 14) (digits : ∀ c ∈ rest, isDigit c = true) :
      IsNumber isDigit ('+' :: first :: rest)

/-- A number outside of the international form that is accepted nevertheless: one of its digits is
of another script, or a line end follows it. -/
inductive IsStray : List Char → Prop
  | otherScript {number : List Char} (isNumber : IsNumber isDecimalDigit number) {c : Char}
      (member : c ∈ number.tail) (other : c.isDigit = false) : IsStray number
  | lineEnd {number : List Char} (isNumber : IsNumber isDecimalDigit number) :
      IsStray (number ++ ['\n'])

/-! ## Digits -/

theorem isDigit_iff {c : Char} : c.isDigit = true ↔ '0' ≤ c ∧ c ≤ '9' := by
  simp [Char.isDigit, Char.le_def]

theorem isDigit_of_leading {c : Char} (leading : '1' ≤ c ∧ c ≤ '9') : c.isDigit = true :=
  isDigit_iff.mpr ⟨Char.le_trans (by decide) leading.1, leading.2⟩

theorem leading_iff {c : Char} : '1' ≤ c ∧ c ≤ '9' ↔ c.isDigit = true ∧ c ≠ '0' := by
  have zero : '0'.val.toNat = 48 := rfl
  have one : '1'.val.toNat = 49 := rfl
  rw [isDigit_iff, Char.le_def, Char.le_def, Char.le_def, UInt32.le_iff_toNat_le,
    UInt32.le_iff_toNat_le, UInt32.le_iff_toNat_le, ne_eq, ← Char.toNat_inj]
  change _ ↔ _ ∧ ¬ c.val.toNat = '0'.val.toNat
  omega

theorem isDecimalDigit_of_isDigit {c : Char} (digit : c.isDigit = true) :
    isDecimalDigit c = true := by
  have range := isDigit_iff.mp digit
  have small : c.toNat < 0x80 := by
    have atMost : c.toNat ≤ '9'.toNat := range.2
    exact Nat.lt_of_le_of_lt atMost (by decide)
  rw [isDecimalDigit, digitValue?, if_pos small, if_pos range]
  rfl

theorem not_isDecimalDigit_lineEnd : isDecimalDigit '\n' = false := by decide

/-! ## Numbers -/

section Numbers

variable {text number : List Char}

theorem IsNumber.mono {isDigit isOther : Char → Bool}
    (included : ∀ c, isDigit c = true → isOther c = true) (isNumber : IsNumber isDigit number) :
    IsNumber isOther number := by
  cases isNumber with
  | intro leading several few digits =>
      exact .intro leading several few fun c member => included c (digits c member)

theorem isInternational_iff : IsInternational text ↔ IsNumber Char.isDigit text := by
  constructor
  · rintro ⟨digits, rfl, atLeast, atMost, allDigits, notZero⟩
    cases digits with
    | nil => simp at atLeast
    | cons first rest =>
        obtain ⟨firstDigit, restDigits⟩ := List.forall_mem_cons.mp allDigits
        have leading : '1' ≤ first ∧ first ≤ '9' :=
          leading_iff.mpr ⟨firstDigit, by simpa using notZero⟩
        have several : 1 ≤ rest.length := Nat.le_of_succ_le_succ atLeast
        have few : rest.length ≤ 14 := Nat.le_of_succ_le_succ atMost
        exact .intro leading several few restDigits
  · intro isNumber
    cases isNumber with
    | @intro first rest leading several few digits =>
        refine ⟨first :: rest, rfl, Nat.succ_le_succ several, Nat.succ_le_succ few, ?_, ?_⟩
        · exact List.forall_mem_cons.mpr ⟨isDigit_of_leading leading, digits⟩
        · simpa using (leading_iff.mp leading).2

/-- A number of decimal digits is in the international form unless one of them is of another
script. -/
theorem IsNumber.isInternational_or_isStray (isNumber : IsNumber isDecimalDigit number) :
    IsInternational number ∨ IsStray number := by
  cases ascii : number.tail.all Char.isDigit with
  | true =>
    refine .inl (isInternational_iff.mpr ?_)
    cases isNumber with
    | intro leading several few digits =>
        have all := List.all_eq_true.mp ascii
        exact .intro leading several few fun c member => all c (List.mem_cons_of_mem _ member)
  | false =>
      obtain ⟨c, member, other⟩ := List.all_eq_false.mp ascii
      exact .inr (.otherScript isNumber member (by simpa using other))

theorem IsInternational.isDigit_of_mem (international : IsInternational text) {c : Char}
    (member : c ∈ text.tail) : c.isDigit = true := by
  obtain ⟨digits, rfl, _, _, ascii, _⟩ := international
  exact ascii c member

theorem IsStray.not_isInternational (isStray : IsStray text) : ¬ IsInternational text := by
  intro international
  cases isStray with
  | otherScript isNumber member other =>
      rw [international.isDigit_of_mem member] at other
      cases other
  | @lineEnd number isNumber =>
      cases isNumber with
      | @intro first rest leading several few digits =>
          have member : '\n' ∈ ('+' :: first :: rest ++ ['\n']).tail := by simp
          exact absurd (international.isDigit_of_mem member) (by decide)

end Numbers

/-! ## What is accepted -/

/-- The digits of a number with nothing or a line end after it are those before the line end. -/
theorem takeWhile_isDecimalDigit {digits ending : List Char}
    (all : ∀ c ∈ digits, isDecimalDigit c = true) (ends : ending = [] ∨ ending = ['\n']) :
    (digits ++ ending).takeWhile isDecimalDigit = digits := by
  have ended : ∀ c ∈ ending.head?, isDecimalDigit c = false := by
    rcases ends with rfl | rfl
    · simp
    · simp [not_isDecimalDigit_lineEnd]
  exact Cut.takeWhile_eq ⟨rfl, all, ended⟩

theorem isPhoneNumber_iff {text : String} :
    isPhoneNumber text = true ↔
      ∃ number ending, text.toList = number ++ ending ∧ IsNumber isDecimalDigit number ∧
        (ending = [] ∨ ending = ['\n']) := by
  constructor
  · intro accepted
    rw [isPhoneNumber] at accepted
    split at accepted
    · rename_i first rest shown
      simp only [Bool.and_eq_true, decide_eq_true_eq, Bool.or_eq_true, beq_iff_eq] at accepted
      obtain ⟨⟨⟨⟨lower, upper⟩, several⟩, few⟩, ending⟩ := accepted
      refine ⟨'+' :: first :: rest.takeWhile isDecimalDigit, _, ?_, ?_, ending⟩
      · rw [shown, List.cons_append, List.cons_append,
          List.prefix_iff_eq_append.mp (List.takeWhile_prefix isDecimalDigit)]
      · have digits := List.all_eq_true.mp (List.all_takeWhile (p := isDecimalDigit) (l := rest))
        exact .intro ⟨lower, upper⟩ several few digits
    · cases accepted
  · rintro ⟨number, ending, shown, isNumber, ends⟩
    cases isNumber with
    | @intro first rest leading several few digits =>
        have taken := takeWhile_isDecimalDigit digits ends
        rw [isPhoneNumber, shown]
        simp [taken, leading, several, few, ends]

theorem isPhoneNumber_eq_true_iff {text : String} :
    isPhoneNumber text = true ↔ IsInternational text.toList ∨ IsStray text.toList := by
  rw [isPhoneNumber_iff]
  constructor
  · rintro ⟨number, ending, shown, isNumber, rfl | rfl⟩
    · rw [shown, List.append_nil]
      exact isNumber.isInternational_or_isStray
    · rw [shown]
      exact .inr (.lineEnd isNumber)
  · rintro (international | isStray)
    · refine ⟨text.toList, [], by simp, ?_, .inl rfl⟩
      exact (isInternational_iff.mp international).mono fun _ => isDecimalDigit_of_isDigit
    · generalize shown : text.toList = chars at isStray
      cases isStray with
      | otherScript isNumber _ _ => exact ⟨_, [], by simp, isNumber, .inl rfl⟩
      | lineEnd isNumber => exact ⟨_, _, rfl, isNumber, .inr rfl⟩

def notANumber (text : String) : Failure :=
  .invalidField phoneField "must be a valid number in E.164 format" (.text text)

theorem validate_phoneField (text : String) :
    validate phoneField (some text) =
      if isPhoneNumber text then .ok () else .error (notANumber text) :=
  rfl

theorem validate_eq_ok_iff {text : String} :
    validate phoneField (some text) = .ok () ↔ isPhoneNumber text = true := by
  rw [validate_phoneField]
  split
  · simp [*]
  · simp [*]

/-- The channels of telephone calls and of short messages accept as phone numbers those in the
international form and the stray ones, which are none, and refuse every other text. -/
theorem accepts_iff_international_or_stray (gateway : Option Gateway) {channel : Channel}
    (telephonic : channel ∈ [Voice.channel, Sms.channel gateway]) (text : String) :
    ∃ check, channel.validate = some check ∧
      (check phoneField (some text) = .ok () ↔
        IsInternational text.toList ∨ IsStray text.toList) ∧
      ¬ (IsInternational text.toList ∧ IsStray text.toList) ∧
      (check phoneField (some text) = .ok () ∨
        check phoneField (some text) = .error (notANumber text)) := by
  have shared : channel.validate = some validate := by
    simp only [List.mem_cons, List.not_mem_nil, or_false] at telephonic
    rcases telephonic with rfl | rfl
    · rfl
    · rfl
  refine ⟨validate, shared, ?_, fun both => both.2.not_isInternational both.1, ?_⟩
  · rw [validate_eq_ok_iff, isPhoneNumber_eq_true_iff]
  · rw [validate_phoneField]
    split
    · exact .inl rfl
    · exact .inr rfl

end Telephony

theorem not_isInternational_with_lineEnd :
    ¬ Telephony.IsInternational "+15555550123\n".toList := by
  intro international
  exact absurd (international.isDigit_of_mem (by decide : '\n' ∈ _)) (by decide)

/-- A number with a line end after it is accepted, although it is not in the international form. -/
theorem accepted_with_lineEnd :
    (∃ check, Voice.channel.validate = some check ∧
      check Telephony.phoneField (some "+15555550123\n") = .ok ()) ∧
    ¬ Telephony.IsInternational "+15555550123\n".toList :=
  ⟨⟨Telephony.validate, rfl, rfl⟩, not_isInternational_with_lineEnd⟩

/-- What the channel of short messages accepts with a line end is a stray number. -/
theorem stray_with_lineEnd :
    Sms.channel none ∈ [Voice.channel, Sms.channel none] ∧
    Telephony.IsStray "+15555550123\n".toList := by
  have telephonic : Sms.channel none ∈ [Voice.channel, Sms.channel none] :=
    List.mem_cons_of_mem _ List.mem_cons_self
  obtain ⟨check, shared, accepts, _, _⟩ :=
    Telephony.accepts_iff_international_or_stray none telephonic "+15555550123\n"
  cases shared
  have accepted : Telephony.validate Telephony.phoneField (some "+15555550123\n") = .ok () := rfl
  exact ⟨telephonic, (accepts.mp accepted).resolve_left not_isInternational_with_lineEnd⟩

end AlertRelay
