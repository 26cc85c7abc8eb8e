import AlertRelay.Proofs.StoredMoments
import AlertRelay.Proofs.TextParts
import AlertRelay.Schema.Scalar

/-!
# Moments in exchanged data

A moment of universal time is read back from the text that is exchanged with others, so it is read
back from exchanged data.
-/

namespace AlertRelay
namespace Moment

variable {date : Date} {moment : Moment}

theorem leadingDate?_dateText (has : Calendar.Has date) (rest : List Char) :
    leadingDate? (dateText date ++ rest) = some (date, rest) := by
  obtain ⟨year, month, day⟩ := has.fits
  have text : dateText date ++ rest =
      padded 4 date.year ++ '-' :: (padded 2 date.month ++ '-' :: (padded 2 date.day ++ rest)) := by
    simp [dateText]
  have inRange : 1 ≤ date.month ∧ date.month ≤ 12 ∧ 1 ≤ date.day ∧
      date.day ≤ Calendar.daysInMonth date.year date.month :=
    ⟨has.month.1, has.month.2, has.day.1, has.day.2⟩
  rw [leadingDate?, text, digits?_padded (Nat.succ_pos 3) year]
  simp [mark?, digits?_padded Nat.two_pos month, digits?_padded Nat.two_pos day, inRange]

/-- The digits of a fraction end where no digit follows. -/
theorem takeWhile_padded {width value : Nat} {mark : Char} (noDigit : mark.isDigit = false)
    (rest : List Char) :
    (padded width value ++ mark :: rest).takeWhile Char.isDigit = padded width value :=
  Cut.takeWhile_eq ⟨rfl, fun _ member => isDigit_of_mem_padded member, by simp [noDigit]⟩

theorem leadingSeconds?_clock {second microsecond : Nat} (seconds : second < 10 ^ 2)
    (fits : microsecond < 10 ^ 6) (rest : List Char) :
    leadingSeconds? (':' :: (padded 2 second ++ (fractionText microsecond ++ 'Z' :: rest))) =
      some (second, microsecond, 'Z' :: rest) := by
  rw [leadingSeconds?, digits?_padded Nat.two_pos seconds, fractionText]
  split
  · rename_i zero
    simp [isFractionMark, zero]
  · have digits : (padded 6 microsecond ++ 'Z' :: rest).takeWhile Char.isDigit =
        padded 6 microsecond :=
      takeWhile_padded rfl rest
    have length := length_padded (Nat.succ_pos 5) fits
    simp [isFractionMark, digits, fraction?_padded fits, length]

theorem exchangeText_of_inCalendar (inCalendar : moment.InCalendar) :
    moment.exchangeText.toList = dateText moment.date ++ 'T' :: (moment.clockText ++ ['Z']) := by
  have universal : nearestSeconds 0 = 0 := rfl
  simp [exchangeText, inCalendar.universal, universal, localText_eq]

theorem ofExtended?_exchangeText (inCalendar : moment.InCalendar) :
    ofExtended? moment.exchangeText.toList = some moment := by
  obtain ⟨has, hour, minute, second, microsecond, universal⟩ := inCalendar
  have clock : moment.clockText ++ ['Z'] =
      padded 2 moment.hour ++ ':' :: (padded 2 moment.minute ++
        ':' :: (padded 2 moment.second ++ (fractionText moment.microsecond ++ ['Z']))) := by
    simp [clockText]
  have inDay : moment.hour ≤ 23 ∧ moment.minute ≤ 59 ∧ moment.second ≤ 59 :=
    ⟨hour, minute, second⟩
  rw [exchangeText_of_inCalendar ⟨has, hour, minute, second, microsecond, universal⟩, clock,
    ofExtended?, leadingDate?_dateText has]
  simp [mark?, digits?_padded Nat.two_pos (show moment.hour < 10 ^ 2 by omega),
    digits?_padded Nat.two_pos (show moment.minute < 10 ^ 2 by omega),
    leadingSeconds?_clock (show moment.second < 10 ^ 2 by omega) microsecond, trailingOffset?,
    inDay, ← universal]

/-- A moment of universal time is read back from its text for exchange. -/
theorem ofExchangeText_exchangeText (inCalendar : moment.InCalendar) :
    ofExchangeText moment.exchangeText = .ok moment := by
  have year : moment.date.year ≠ 0 := Nat.ne_of_gt inCalendar.date.year.1
  rw [ofExchangeText, ofDateText?, ofExtended?_exchangeText inCalendar]
  simp [year]

theorem ascii_exchangeText (inCalendar : moment.InCalendar) {c : Char}
    (member : c ∈ moment.exchangeText.toList) : c.toNat < 128 := by
  rw [exchangeText_of_inCalendar inCalendar] at member
  simp only [List.mem_append, List.mem_cons, List.not_mem_nil, or_false] at member
  rcases member with inDate | rfl | inClock | rfl
  · exact ascii_of_mem_dateText inDate
  · decide
  · exact ascii_of_mem_clockText inClock
  · decide

end Moment

/-- A moment of universal time is read back from exchanged data. -/
theorem Scalar.moment_exchangeText {moment : Moment} (inCalendar : moment.InCalendar) :
    Scalar.moment (.text moment.exchangeText) = .valid moment := by
  have whole : Surrogate.isIn moment.exchangeText = false :=
    Surrogate.not_isIn_of_ascii fun _ member => Moment.ascii_exchangeText inCalendar member
  simp [Scalar.moment, ofCharacters, whole, Moment.ofExchangeText_exchangeText inCalendar,
    Except.mapError, Checked.ofReading]

end AlertRelay
