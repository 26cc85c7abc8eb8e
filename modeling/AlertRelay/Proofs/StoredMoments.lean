import AlertRelay.Proofs.CodePoints
import AlertRelay.Time.Iso
import Mathlib.Algebra.Ring.Nat

/-!
# Moments in storage

A moment that was brought to universal time lies in the calendar, and the reader finds it again in
its stored text.
-/

namespace AlertRelay

namespace Calendar

/-- The calendar has the day, in a year of four digits. -/
structure Has (date : Date) : Prop where
  year : 1 ≤ date.year ∧ date.year ≤ 9999
  month : 1 ≤ date.month ∧ date.month ≤ 12
  day : 1 ≤ date.day ∧ date.day ≤ daysInMonth date.year date.month

/-- A day before the end of the given months lies in one of them. -/
theorem monthAndDay_within {lengths : List Nat} {month days : Nat} (within : days < lengths.sum) :
    ∃ past length, lengths[past]? = some length ∧
      (monthAndDay month days lengths).1 = month + past ∧
      1 ≤ (monthAndDay month days lengths).2 ∧ (monthAndDay month days lengths).2 ≤ length := by
  induction lengths generalizing month days with
  | nil => simp at within
  | cons length rest ih =>
      rw [monthAndDay]
      split
      · rename_i here
        exact ⟨0, length, rfl, rfl, Nat.succ_pos days, here⟩
      · rename_i later
        have within : days - length < rest.sum := by
          rw [List.sum_cons] at within
          omega
        obtain ⟨past, longest, found, month, first, last⟩ := @ih (month + 1) _ within
        exact ⟨past + 1, longest, found, by omega, first, last⟩

theorem le_sum_monthLengths (year : Nat) : 365 ≤ (monthLengths year).sum := by
  unfold monthLengths
  split <;> decide

theorem daysInMonth_le (year month : Nat) : daysInMonth year month ≤ 31 := by
  rw [daysInMonth]
  cases found : (monthLengths year)[month - 1]? with
  | none => simp
  | some length =>
      have member := List.mem_of_getElem? found
      simp only [monthLengths, List.mem_cons, List.not_mem_nil, or_false] at member
      split at member <;> simp only [Option.getD_some] <;> omega

/-- The parts of a day in the calendar fit into four, two and two digits. -/
theorem Has.fits {date : Date} (has : Has date) :
    date.year < 10 ^ 4 ∧ date.month < 10 ^ 2 ∧ date.day < 10 ^ 2 := by
  have day := Nat.le_trans has.day.2 (daysInMonth_le _ _)
  exact ⟨Nat.lt_succ_of_le has.year.2, Nat.lt_of_le_of_lt has.month.2 (by decide),
    Nat.lt_of_le_of_lt day (by decide)⟩

theorem has_monthAndDay {year days : Nat} (inYears : 1 ≤ year ∧ year ≤ 9999)
    (within : days < 365) :
    Has ⟨year, (monthAndDay 1 days (monthLengths year)).1,
      (monthAndDay 1 days (monthLengths year)).2⟩ := by
  obtain ⟨past, length, found, month, first, last⟩ :=
    @monthAndDay_within _ 1 days (Nat.lt_of_lt_of_le within (le_sum_monthLengths year))
  have inYear : past < 12 := (List.getElem?_eq_some_iff.mp found).1
  refine ⟨inYears, ?_, first, ?_⟩
  · dsimp only
    omega
  · rw [daysInMonth, month, Nat.add_sub_cancel_left, found]
    exact last

theorem has_dateOfNumber {number : Nat} (first : 1 ≤ number)
    (last : number ≤ dayNumber ⟨9999, 12, 31⟩) : Has (dateOfNumber number) := by
  have lastNumber : dayNumber ⟨9999, 12, 31⟩ = 3652059 := by
    decide
  rw [lastNumber] at last
  dsimp only [dateOfNumber]
  split
  · -- The last day of a cycle of leap years would start the year after it.
    have december (year : Nat) : daysInMonth year 12 = 31 := rfl
    refine ⟨?_, by simp, by simp [december]⟩
    dsimp only
    omega
  · exact has_monthAndDay (by omega) (Nat.mod_lt _ (by decide))

end Calendar

namespace Moment

/-- The moment is one of universal time and has all its parts in range. -/
structure InCalendar (moment : Moment) : Prop where
  date : Calendar.Has moment.date
  hour : moment.hour ≤ 23
  minute : moment.minute ≤ 59
  second : moment.second ≤ 59
  microsecond : moment.microsecond < 1000000
  universal : moment.offset = some 0

/-- What is brought to universal time lies in the calendar. -/
theorem inCalendar_of_toUniversal? {moment universal : Moment}
    (brought : moment.toUniversal? = some universal) : universal.InCalendar := by
  dsimp only [toUniversal?] at brought
  split at brought
  · rename_i inYears
    cases brought
    refine ⟨Calendar.has_dateOfNumber (by omega) (by omega), ?_, ?_, ?_, ?_, rfl⟩ <;>
      dsimp only [ofSeconds, secondsPerDay, microsecondsPerSecond] <;> omega
  · cases brought

/-! ## Reading numbers -/

section Numbers

variable {width value : Nat}

theorem length_padded (positive : 0 < width) (fits : value < 10 ^ width) :
    (padded width value).length = width := by
  have short := (Nat.length_toDigits_le_iff (by decide) positive).mpr fits
  rw [padded, List.length_append, List.length_replicate]
  omega

theorem isDigit_of_mem_padded {c : Char} (member : c ∈ padded width value) : c.isDigit = true := by
  rcases List.mem_append.mp member with zero | digit
  · rw [List.eq_of_mem_replicate zero]
    decide
  · exact Nat.isDigit_of_mem_toDigits (by decide) (by decide) digit

theorem ne_of_isDigit {c mark : Char} (digit : c.isDigit = true) (noDigit : mark.isDigit = false) :
    c ≠ mark := by
  rintro rfl
  cases digit.symm.trans noDigit

/-- A number that was written with leading zeros is read back. -/
theorem digits?_padded (positive : 0 < width) (fits : value < 10 ^ width) (rest : List Char) :
    digits? width (padded width value ++ rest) = some (value, rest) := by
  have length := length_padded positive fits
  have digits : (padded width value).all Char.isDigit = true :=
    List.all_eq_true.mpr fun c member => isDigit_of_mem_padded member
  have number : (padded width value).foldl (fun sum c => sum * 10 + (c.toNat - '0'.toNat)) 0 =
      Nat.ofDigitChars 10 (padded width value) 0 := by
    simp only [Nat.ofDigitChars, Nat.mul_comm]
  rw [digits?, List.take_left' length, List.drop_left' length]
  rw [if_pos ⟨length, digits⟩, number, padded, Nat.ofDigitChars_append,
    Nat.ofDigitChars_replicate_zero, Nat.mul_zero, Nat.ofDigitChars_ten_toDigits]

end Numbers

/-! ## Reading moments -/

/-- The written form of a date. -/
def dateText (date : Date) : List Char :=
  padded 4 date.year ++ '-' :: (padded 2 date.month ++ '-' :: padded 2 date.day)

/-- The written form of the part of a second, when there is one. -/
def fractionText (microsecond : Nat) : List Char :=
  if microsecond = 0 then [] else '.' :: padded 6 microsecond

/-- The written form of a time of day. -/
def clockText (moment : Moment) : List Char :=
  padded 2 moment.hour ++ ':' :: (padded 2 moment.minute ++ ':' ::
    (padded 2 moment.second ++ fractionText moment.microsecond))

theorem localText_eq (moment : Moment) :
    moment.localText = dateText moment.date ++ 'T' :: clockText moment := by
  simp [localText, dateText, clockText, fractionText]

theorem exists_padded_eq_cons {width value : Nat} (positive : 0 < width)
    (fits : value < 10 ^ width) :
    ∃ first more, padded width value = first :: more ∧ first.isDigit = true := by
  cases written : padded width value with
  | nil =>
      have length := length_padded positive fits
      rw [written] at length
      exact absurd length.symm (Nat.ne_of_gt positive)
  | cons first more =>
      exact ⟨first, more, rfl, isDigit_of_mem_padded (written ▸ List.mem_cons_self)⟩

theorem date?_dateText {date : Date} (has : Calendar.Has date) :
    date? (dateText date) = some date := by
  obtain ⟨year, month, day⟩ := has.fits
  obtain ⟨first, more, written, digit⟩ := exists_padded_eq_cons Nat.two_pos month
  have noWeek : first ≠ 'W' := ne_of_isDigit digit rfl
  have yearRead := digits?_padded (Nat.succ_pos 3) year
    ('-' :: (padded 2 date.month ++ '-' :: padded 2 date.day))
  have monthRead := digits?_padded Nat.two_pos month ('-' :: padded 2 date.day)
  have dayRead := digits?_padded Nat.two_pos day []
  rw [written, List.cons_append] at monthRead
  rw [List.append_nil] at dayRead
  rw [date?, dateText, yearRead]
  simp [written, noWeek, monthRead, dayRead, separator?]

theorem fraction?_padded {microsecond : Nat} (fits : microsecond < 10 ^ 6) :
    fraction? (padded 6 microsecond) = some (microsecond, []) := by
  have read := digits?_padded (Nat.succ_pos 5) fits []
  rw [List.append_nil] at read
  simp [fraction?, length_padded (Nat.succ_pos 5) fits, read]

theorem clockParts?_fractionText {microsecond : Nat} (fits : microsecond < 10 ^ 6)
    (hour minute second : Nat) :
    clockParts? true [hour, minute, second] 0 (fractionText microsecond) =
      some ⟨hour, minute, second, microsecond, []⟩ := by
  rw [fractionText]
  split
  · rename_i zero
    simp [clockParts?, zero]
  · obtain ⟨first, more, written, _⟩ := exists_padded_eq_cons (Nat.succ_pos 5) fits
    have read := fraction?_padded fits
    rw [written] at read ⊢
    simp [clockParts?, isFractionMark, read]

/-- Reading goes on with the next part of a time of day. -/
theorem clockParts?_part {value : Nat} (fits : value < 10 ^ 2) (values : List Nat) (missing : Nat)
    (rest : List Char) :
    clockParts? true values (missing + 1) (':' :: (padded 2 value ++ rest)) =
      clockParts? true (values ++ [value]) missing rest := by
  obtain ⟨first, more, written, _⟩ := exists_padded_eq_cons Nat.two_pos fits
  have read := digits?_padded Nat.two_pos fits rest
  rw [written, List.cons_append] at read ⊢
  simp [clockParts?, isFractionMark, read]

/-- The time of day of a moment as the parts of a clock. -/
def clock (moment : Moment) : Clock :=
  ⟨moment.hour, moment.minute, moment.second, moment.microsecond, []⟩

theorem clock?_clockText {moment : Moment} (inCalendar : moment.InCalendar) :
    clock? moment.clockText = some moment.clock := by
  obtain ⟨_, hour, minute, second, microsecond, _⟩ := inCalendar
  rw [clock?, clockText, digits?_padded Nat.two_pos (by omega)]
  simp only [List.head?_cons, decide_true]
  rw [clockParts?_part (by omega), clockParts?_part (by omega)]
  exact clockParts?_fractionText microsecond _ _ _

theorem mem_clockText {moment : Moment} {c : Char} (member : c ∈ moment.clockText) :
    c.isDigit = true ∨ c = ':' ∨ c = '.' := by
  have ofNumber {width value : Nat} (written : c ∈ padded width value) :
      c.isDigit = true ∨ c = ':' ∨ c = '.' :=
    .inl (isDigit_of_mem_padded written)
  simp only [clockText, fractionText, List.mem_append, List.mem_cons] at member
  rcases member with hour | colon | minute | colon | second | fraction
  · exact ofNumber hour
  · exact .inr (.inl colon)
  · exact ofNumber minute
  · exact .inr (.inl colon)
  · exact ofNumber second
  · split at fraction
    · cases fraction
    · rcases List.mem_cons.mp fraction with point | digits
      · exact .inr (.inr point)
      · exact ofNumber digits

theorem distanceText_zero : distanceText 0 = ['+', '0', '0', ':', '0', '0'] := by
  decide

theorem clockWithOffset?_clockText {moment : Moment} (inCalendar : moment.InCalendar) :
    clockWithOffset? (moment.clockText ++ distanceText 0) = some (moment.clock, some 0) := by
  have noMark : ∀ c ∈ moment.clockText, (!(c = '+' || c = '-' || c = 'Z' : Bool)) = true := by
    intro c member
    have apart : c ≠ '+' ∧ c ≠ '-' ∧ c ≠ 'Z' := by
      rcases mem_clockText member with digit | rfl | rfl
      · exact ⟨ne_of_isDigit digit rfl, ne_of_isDigit digit rfl, ne_of_isDigit digit rfl⟩
      · decide
      · decide
    simp [apart]
  have distance : clock? ['0', '0', ':', '0', '0'] = some ⟨0, 0, 0, 0, []⟩ := rfl
  rw [clockWithOffset?, List.takeWhile_append_of_pos noMark, List.dropWhile_append_of_pos noMark,
    distanceText_zero]
  simp [clock?_clockText inCalendar, distance, clock, clockDistance]

/-! ## Bytes -/

theorem bytes_ascii {c : Char} (ascii : c.toNat < 128) :
    (String.utf8EncodeChar c).map (fun byte => Char.ofNat byte.toNat) = [c] := by
  have small : c.toNat ≤ 127 := Nat.le_of_lt_succ ascii
  have byte : c.toNat % 256 = c.toNat := Nat.mod_eq_of_lt (by omega)
  simp [String.utf8EncodeChar, small, byte]

theorem encoded_ascii {chars : List Char} (ascii : ∀ c ∈ chars, c.toNat < 128) :
    encoded (String.ofList chars) = chars := by
  rw [encoded, Surrogate.points, String.toList_ofList, Surrogate.pointsOf_ascii ascii,
    List.flatMap_map]
  induction chars with
  | nil => rfl
  | cons c rest ih =>
      rw [List.forall_mem_cons] at ascii
      rw [List.flatMap_cons, Surrogate.Point.character, bytes_ascii ascii.1, ih ascii.2]
      rfl

theorem mem_dateText {date : Date} {c : Char} (member : c ∈ dateText date) :
    c.isDigit = true ∨ c = '-' := by
  simp only [dateText, List.mem_append, List.mem_cons] at member
  rcases member with year | dash | month | dash | day
  · exact .inl (isDigit_of_mem_padded year)
  · exact .inr dash
  · exact .inl (isDigit_of_mem_padded month)
  · exact .inr dash
  · exact .inl (isDigit_of_mem_padded day)

theorem ascii_of_isDigit {c : Char} (digit : c.isDigit = true) : c.toNat < 128 := by
  have last := (Char.isDigit_iff_toNat.mp digit).2
  have nine : '9'.toNat = 57 := rfl
  omega

theorem ascii_of_mem_dateText {date : Date} {c : Char} (member : c ∈ dateText date) :
    c.toNat < 128 := by
  rcases mem_dateText member with digit | rfl
  · exact ascii_of_isDigit digit
  · decide

theorem ascii_of_mem_clockText {moment : Moment} {c : Char} (member : c ∈ moment.clockText) :
    c.toNat < 128 := by
  rcases mem_clockText member with digit | rfl | rfl
  · exact ascii_of_isDigit digit
  · decide
  · decide

theorem encoded_storedText (moment : Moment) :
    encoded moment.storedText =
      dateText moment.date ++ 'T' :: (moment.clockText ++ distanceText 0) := by
  have text : moment.storedText =
      String.ofList (dateText moment.date ++ 'T' :: (moment.clockText ++ distanceText 0)) := by
    simp [storedText, localText_eq]
  have zone : ∀ c ∈ distanceText 0, c.toNat < 128 := by
    simp [distanceText_zero]
  rw [text, encoded_ascii]
  intro c member
  simp only [List.mem_append, List.mem_cons] at member
  rcases member with inDate | rfl | inClock | inZone
  · exact ascii_of_mem_dateText inDate
  · decide
  · exact ascii_of_mem_clockText inClock
  · exact zone c inZone

theorem length_dateText {date : Date} (has : Calendar.Has date) :
    (dateText date).length = 10 := by
  obtain ⟨year, month, day⟩ := has.fits
  simp [dateText, length_padded (Nat.succ_pos 3) year, length_padded Nat.two_pos month,
    length_padded Nat.two_pos day]

theorem dateLength_dateText {date : Date} (has : Calendar.Has date) (rest : List Char) :
    dateLength (dateText date ++ rest) = 10 := by
  have length := length_dateText has
  obtain ⟨year, month, _⟩ := has.fits
  obtain ⟨first, more, written, digit⟩ := exists_padded_eq_cons Nat.two_pos month
  have noWeek : first ≠ 'W' := ne_of_isDigit digit rfl
  have long : (dateText date ++ rest).length ≠ 7 := by
    rw [List.length_append]
    omega
  have yearLength := length_padded (Nat.succ_pos 3) year
  have dash : (dateText date ++ rest)[4]? = some '-' := by
    simp [dateText, yearLength]
  have monthStart : (dateText date ++ rest)[5]? = some first := by
    simp [dateText, List.getElem?_append, yearLength, written]
  rw [dateLength, if_neg long, if_pos dash, monthStart, if_neg (by simpa using noWeek)]

theorem checked_of_inCalendar {moment : Moment} (inCalendar : moment.InCalendar) :
    checked moment.date moment.clock (some 0) = .ok moment := by
  obtain ⟨⟨year, month, day⟩, hour, minute, second, _, universal⟩ := inCalendar
  rw [checked, if_neg (by decide), if_neg (by omega), if_neg (by omega), if_neg (by omega),
    if_neg (by simp only [clock]; omega), if_neg (by simp only [clock]; omega),
    if_neg (by simp only [clock]; omega), ← universal]
  rfl

/-- A moment in the calendar is read back from its stored text. -/
theorem ofStoredText_storedText {moment : Moment} (inCalendar : moment.InCalendar) :
    ofStoredText moment.storedText = .ok moment := by
  have has := inCalendar.date
  have length := length_dateText has
  simp only [ofStoredText, encoded_storedText, dateLength_dateText has, List.take_left' length,
    List.drop_left' length, date?_dateText has]
  have apart : encodedWidth 'T' - 1 = 0 := rfl
  rw [apart, List.drop_zero, clockWithOffset?_clockText inCalendar]
  exact checked_of_inCalendar inCalendar

end Moment
end AlertRelay
