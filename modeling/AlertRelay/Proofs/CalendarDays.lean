import AlertRelay.Delivery.Ledger
import AlertRelay.Proofs.StoredMoments

/-!
# Days of the calendar

A day number determines its day: the cycles of leap years are the digits of the years before the
day, and the lengths of the months give its month.  So a moment of universal time that lies in the
calendar is already what bringing it to universal time makes of it.
-/

namespace AlertRelay

namespace Calendar

/-! ## Months -/

/-- The day of one of the given months is found in this month. -/
theorem monthAndDay_of_getElem? {lengths : List Nat} {past length days : Nat} (month : Nat)
    (found : lengths[past]? = some length) (within : days < length) :
    monthAndDay month ((lengths.take past).sum + days) lengths = (month + past, days + 1) := by
  induction lengths generalizing past month with
  | nil => cases found
  | cons first rest ih =>
      cases past with
      | zero =>
          obtain rfl := Option.some.inj found
          simp [monthAndDay, within]
      | succ past =>
          have later : ¬ first + (rest.take past).sum + days < first := by
            omega
          have remaining : first + (rest.take past).sum + days - first =
              (rest.take past).sum + days := by
            omega
          rw [List.take_succ_cons, List.sum_cons, monthAndDay, if_neg later, remaining,
            ih (month + 1) found, Nat.add_right_comm, Nat.add_assoc]

theorem sum_take_add_le {lengths : List Nat} {past length : Nat}
    (found : lengths[past]? = some length) : (lengths.take past).sum + length ≤ lengths.sum := by
  obtain ⟨inList, rfl⟩ := List.getElem?_eq_some_iff.mp found
  have parts := congrArg List.sum (List.take_append_drop (past + 1) lengths)
  rw [List.take_succ_eq_append_getElem inList, List.sum_append, List.sum_append,
    List.sum_singleton] at parts
  omega

theorem daysBeforeMonth_eq_sum (year month : Nat) :
    daysBeforeMonth year month = ((monthLengths year).take (month - 1)).sum := by
  rw [daysBeforeMonth, List.sum_eq_foldl]

theorem sum_monthLengths (year : Nat) :
    (monthLengths year).sum = if isLeapYear year then 366 else 365 := by
  unfold monthLengths
  split <;> rfl

/-- The days of the year before a day of the calendar. -/
def daysInYearBefore (date : Date) : Nat := daysBeforeMonth date.year date.month + (date.day - 1)

section Days

variable {date : Date}

theorem Has.getElem?_monthLengths (has : Has date) :
    (monthLengths date.year)[date.month - 1]? = some (daysInMonth date.year date.month) := by
  have inYear : date.month - 1 < (monthLengths date.year).length := by
    have twelve : (monthLengths date.year).length = 12 := rfl
    have month := has.month
    omega
  rw [daysInMonth, List.getElem?_eq_getElem inYear, Option.getD_some]

theorem Has.monthAndDay_eq (has : Has date) :
    monthAndDay 1 (daysInYearBefore date) (monthLengths date.year) = (date.month, date.day) := by
  have month := has.month
  have day := has.day
  rw [daysInYearBefore, daysBeforeMonth_eq_sum,
    monthAndDay_of_getElem? 1 has.getElem?_monthLengths (by omega)]
  congr 1 <;> omega

theorem Has.daysInYearBefore_lt (has : Has date) :
    daysInYearBefore date < if isLeapYear date.year then 366 else 365 := by
  have whole := sum_take_add_le has.getElem?_monthLengths
  have day := has.day
  rw [daysInYearBefore, daysBeforeMonth_eq_sum, ← sum_monthLengths]
  omega

theorem Has.isLeapYear_of_last (has : Has date) (last : daysInYearBefore date = 365) :
    isLeapYear date.year = true := by
  by_contra common
  have before := has.daysInYearBefore_lt
  rw [if_neg common] at before
  omega

/-- Only the last day of a leap year has 365 days before it. -/
theorem Has.monthAndDay_of_last (has : Has date) (last : daysInYearBefore date = 365) :
    date.month = 12 ∧ date.day = 31 := by
  have december : monthAndDay 1 365 (monthLengths date.year) = (12, 31) := by
    simp [monthLengths, has.isLeapYear_of_last last, monthAndDay]
  have found := has.monthAndDay_eq
  rw [last, december] at found
  exact ⟨(Prod.mk.inj found).1.symm, (Prod.mk.inj found).2.symm⟩

end Days

/-! ## Years -/

section Years

variable {quadricentury century quadrennium year : Nat}

theorem isLeapYear_of_cycles (centuries : century ≤ 3) (quadrenniums : quadrennium ≤ 24)
    (years : year ≤ 3) :
    isLeapYear (quadricentury * 400 + century * 100 + quadrennium * 4 + year + 1) = true ↔
      year = 3 ∧ (quadrennium = 24 → century = 3) := by
  simp only [isLeapYear, Bool.and_eq_true, Bool.or_eq_true, beq_iff_eq, bne_iff_ne]
  omega

theorem daysBeforeYear_of_cycles (centuries : century ≤ 3) (quadrenniums : quadrennium ≤ 24)
    (years : year ≤ 3) :
    daysBeforeYear (quadricentury * 400 + century * 100 + quadrennium * 4 + year + 1) =
      quadricentury * 146097 + century * 36524 + quadrennium * 1461 + year * 365 := by
  dsimp only [daysBeforeYear]
  omega

theorem exists_cycles (past : Nat) :
    ∃ quadricentury century quadrennium year, century ≤ 3 ∧ quadrennium ≤ 24 ∧ year ≤ 3 ∧
      past = quadricentury * 400 + century * 100 + quadrennium * 4 + year :=
  ⟨past / 400, past % 400 / 100, past % 100 / 4, past % 4, by omega⟩

section Numbers

variable {number days ofYear : Nat}

/-- The day with a number, whose digits are the cycles. -/
theorem dateOfNumber_eq (first : (number - 1) / 146097 = quadricentury)
    (second : (number - 1) % 146097 / 36524 = century)
    (third : (number - 1) % 146097 % 36524 / 1461 = quadrennium)
    (fourth : (number - 1) % 146097 % 36524 % 1461 / 365 = year)
    (rest : (number - 1) % 146097 % 36524 % 1461 % 365 = days)
    (years : quadricentury * 400 + century * 100 + quadrennium * 4 + year + 1 = ofYear) :
    dateOfNumber number =
      if year = 4 ∨ century = 4 then ⟨ofYear - 1, 12, 31⟩
      else ⟨ofYear, (monthAndDay 1 days (monthLengths ofYear)).1,
        (monthAndDay 1 days (monthLengths ofYear)).2⟩ := by
  subst first second third fourth rest years
  rfl

theorem dateOfNumber_of_cycles (centuries : century ≤ 3) (quadrenniums : quadrennium ≤ 24)
    (years : year ≤ 3) (within : days < 365)
    (total : number =
      quadricentury * 146097 + century * 36524 + quadrennium * 1461 + year * 365 + days + 1)
    (inYear : ofYear = quadricentury * 400 + century * 100 + quadrennium * 4 + year + 1) :
    dateOfNumber number =
      ⟨ofYear, (monthAndDay 1 days (monthLengths ofYear)).1,
        (monthAndDay 1 days (monthLengths ofYear)).2⟩ := by
  have first : (number - 1) / 146097 = quadricentury := by omega
  have second : (number - 1) % 146097 / 36524 = century := by omega
  have third : (number - 1) % 146097 % 36524 / 1461 = quadrennium := by omega
  have fourth : (number - 1) % 146097 % 36524 % 1461 / 365 = year := by omega
  have rest : (number - 1) % 146097 % 36524 % 1461 % 365 = days := by omega
  rw [dateOfNumber_eq first second third fourth rest inYear.symm, if_neg (by omega)]

/-- By its digits the last day of a leap year would start the year after it. -/
theorem dateOfNumber_of_last (centuries : century ≤ 3) (quadrenniums : quadrennium ≤ 24)
    (longest : quadrennium = 24 → century = 3)
    (total : number =
      quadricentury * 146097 + century * 36524 + quadrennium * 1461 + 3 * 365 + 365 + 1)
    (inYear : ofYear = quadricentury * 400 + century * 100 + quadrennium * 4 + 3 + 1) :
    dateOfNumber number = ⟨ofYear, 12, 31⟩ := by
  have first : (number - 1) / 146097 = quadricentury := by omega
  -- After four centuries their count is one too many, and otherwise that of the years.
  by_cases lastOfCentury : quadrennium = 24
  · obtain rfl := longest lastOfCentury
    have second : (number - 1) % 146097 / 36524 = 4 := by omega
    have third : (number - 1) % 146097 % 36524 / 1461 = 0 := by omega
    have fourth : (number - 1) % 146097 % 36524 % 1461 / 365 = 0 := by omega
    rw [dateOfNumber_eq first second third fourth rfl rfl, if_pos (.inr rfl)]
    congr 1
    omega
  · have second : (number - 1) % 146097 / 36524 = century := by omega
    have third : (number - 1) % 146097 % 36524 / 1461 = quadrennium := by omega
    have fourth : (number - 1) % 146097 % 36524 % 1461 / 365 = 4 := by omega
    rw [dateOfNumber_eq first second third fourth rfl rfl, if_pos (.inl rfl)]
    congr 1
    omega

end Numbers

end Years

theorem Has.dayNumber_eq {date : Date} (has : Has date) :
    dayNumber date = daysBeforeYear date.year + daysInYearBefore date + 1 := by
  have day := has.day
  rw [dayNumber, daysInYearBefore]
  omega

/-- A day of the calendar is found again by its number. -/
theorem Has.dateOfNumber_dayNumber {date : Date} (has : Has date) :
    dateOfNumber (dayNumber date) = date := by
  obtain ⟨quadricentury, century, quadrennium, year, centuries, quadrenniums, years, cycles⟩ :=
    exists_cycles (date.year - 1)
  have inYears := has.year
  have ofYear : date.year =
      quadricentury * 400 + century * 100 + quadrennium * 4 + year + 1 := by
    omega
  have total : dayNumber date = quadricentury * 146097 + century * 36524 + quadrennium * 1461 +
      year * 365 + daysInYearBefore date + 1 := by
    rw [has.dayNumber_eq, ofYear, daysBeforeYear_of_cycles centuries quadrenniums years]
  by_cases last : daysInYearBefore date = 365
  · have leap := has.isLeapYear_of_last last
    rw [ofYear, isLeapYear_of_cycles centuries quadrenniums years] at leap
    obtain ⟨rfl, longest⟩ := leap
    obtain ⟨month, day⟩ := has.monthAndDay_of_last last
    rw [last] at total
    rw [dateOfNumber_of_last centuries quadrenniums longest total ofYear, ← month, ← day]
  · have within : daysInYearBefore date < 365 := by
      have before := has.daysInYearBefore_lt
      split at before <;> omega
    rw [dateOfNumber_of_cycles centuries quadrenniums years within total ofYear,
      has.monthAndDay_eq]

theorem Has.dayNumber_le {date : Date} (has : Has date) :
    1 ≤ dayNumber date ∧ dayNumber date ≤ dayNumber ⟨9999, 12, 31⟩ := by
  have lastNumber : dayNumber ⟨9999, 12, 31⟩ = 3652059 := by
    decide
  have before := has.daysInYearBefore_lt
  have inYears := has.year
  rw [lastNumber, has.dayNumber_eq]
  refine ⟨Nat.succ_pos _, ?_⟩
  -- All days of earlier years are in bounds; in the last year the bound is met on its last day.
  rcases Nat.lt_or_eq_of_le inYears.2 with earlier | lastYear
  · have past : daysBeforeYear date.year ≤ 3651329 := by
      dsimp only [daysBeforeYear]
      omega
    split at before <;> omega
  · have past : daysBeforeYear 9999 = 3651694 := by
      decide
    have common : isLeapYear 9999 = false := by
      decide
    rw [lastYear, common] at before
    rw [lastYear, past]
    simp only [Bool.false_eq_true, if_false] at before
    omega

end Calendar

namespace Moment

/-- The seconds from the start of the calendar up to a moment. -/
def secondsBefore (moment : Moment) : Nat :=
  Calendar.dayNumber moment.date * 86400 +
    (moment.hour * 3600 + moment.minute * 60 + moment.second)

section Universal

variable {moment : Moment} (inCalendar : moment.InCalendar)

include inCalendar

theorem microseconds_of_inCalendar :
    moment.microseconds = (moment.secondsBefore : Int) * 1000000 + moment.microsecond := by
  simp only [microseconds, secondsBefore, inCalendar.universal, secondsPerDay,
    microsecondsPerSecond, Option.getD_some]
  omega

theorem ofSeconds_secondsBefore :
    ofSeconds moment.secondsBefore moment.microsecond = moment := by
  obtain ⟨date, hour, minute, second, _, universal⟩ := inCalendar
  have days : ((moment.secondsBefore : Int) / secondsPerDay).toNat =
      Calendar.dayNumber moment.date := by
    simp only [secondsBefore, secondsPerDay]
    omega
  have ofDay : ((moment.secondsBefore : Int) % secondsPerDay).toNat =
      moment.hour * 3600 + moment.minute * 60 + moment.second := by
    simp only [secondsBefore, secondsPerDay]
    omega
  have hours : (moment.hour * 3600 + moment.minute * 60 + moment.second) / 3600 = moment.hour := by
    omega
  have minutes : (moment.hour * 3600 + moment.minute * 60 + moment.second) / 60 % 60 =
      moment.minute := by
    omega
  have seconds : (moment.hour * 3600 + moment.minute * 60 + moment.second) % 60 =
      moment.second := by
    omega
  simp only [ofSeconds, days, ofDay, hours, minutes, seconds, date.dateOfNumber_dayNumber,
    ← universal]

theorem toUniversal?_of_inCalendar : moment.toUniversal? = some moment := by
  have total := microseconds_of_inCalendar inCalendar
  have fits := inCalendar.microsecond
  have seconds : moment.microseconds / microsecondsPerSecond = moment.secondsBefore := by
    simp only [total, microsecondsPerSecond]
    omega
  have rest : (moment.microseconds % microsecondsPerSecond).toNat = moment.microsecond := by
    simp only [total, microsecondsPerSecond]
    omega
  have inYears : 1 ≤ (moment.secondsBefore : Int) / secondsPerDay ∧
      (moment.secondsBefore : Int) / secondsPerDay ≤ Calendar.dayNumber ⟨9999, 12, 31⟩ := by
    have days := inCalendar.date.dayNumber_le
    obtain ⟨_, hour, minute, second, _, _⟩ := inCalendar
    simp only [secondsBefore, secondsPerDay]
    omega
  simp only [toUniversal?, seconds, rest]
  rw [if_pos inYears, ofSeconds_secondsBefore inCalendar]

end Universal

end Moment

theorem Ledger.universal_of_inCalendar {now : Moment} (inCalendar : now.InCalendar) :
    universal now = .ok now := by
  rw [universal, Moment.toUniversal?_of_inCalendar inCalendar]

end AlertRelay
