import Mathlib.Order.Monotone.Basic
import TolerantValidation.Calendar.DateTime

/-!
The numbers of dates count the days of the calendar: each date has a number of its own, the day
after has the next one and the day before the last one.
-/

namespace TolerantValidation

namespace Date

theorem exists_ofParts? {year month day : Nat} (isDate : IsDate year month day) :
    ∃ date, ofParts? year month day = some date ∧ date.ordinal = dayNumber year month day :=
  ⟨⟨year, month, day, isDate⟩, dif_pos isDate, rfl⟩

theorem daysInMonth_pos_iff {year month : Nat} :
    1 ≤ daysInMonth year month ↔ 1 ≤ month ∧ month ≤ 12 := by
  unfold daysInMonth
  split
  case h_12 => split <;> decide
  case h_13 => grind
  all_goals decide

theorem daysInMonth_le (year month : Nat) : daysInMonth year month ≤ 31 := by
  unfold daysInMonth
  split
  case h_12 => split <;> decide
  all_goals decide

theorem month_bounds (date : Date) : 1 ≤ date.month ∧ date.month ≤ 12 := by
  obtain ⟨_, _, least, most⟩ := date.exists_
  exact daysInMonth_pos_iff.mp (Nat.le_trans least most)

theorem daysBeforeMonth_succ (year : Nat) {month : Nat} (least : 1 ≤ month) :
    daysBeforeMonth year (month + 1) = daysBeforeMonth year month + daysInMonth year month := by
  obtain ⟨month, rfl⟩ := Nat.exists_eq_add_one.mpr least
  rfl

theorem daysBeforeMonth_mono (year : Nat) : Monotone (daysBeforeMonth year) := by
  apply monotone_nat_of_le_succ
  intro month
  cases month with
  | zero => exact Nat.le_refl 0
  | succ month =>
      rw [daysBeforeMonth_succ year (Nat.succ_pos month)]
      exact Nat.le_add_right _ _

theorem isLeapYear_iff {year : Nat} :
    isLeapYear year = true ↔ year % 4 = 0 ∧ (year % 100 ≠ 0 ∨ year % 400 = 0) := by
  simp [isLeapYear]

theorem daysBeforeMonth_thirteen (year : Nat) :
    daysBeforeMonth year 13 = if isLeapYear year then 366 else 365 := by
  simp only [daysBeforeMonth, daysInMonth]
  split <;> rfl

theorem daysBeforeYear_succ {year : Nat} (least : 1 ≤ year) :
    daysBeforeYear (year + 1) = daysBeforeYear year + daysBeforeMonth year 13 := by
  have fourth : year / 4 = (year - 1) / 4 + if year % 4 = 0 then 1 else 0 := by
    split <;> omega
  have hundredth : year / 100 = (year - 1) / 100 + if year % 100 = 0 then 1 else 0 := by
    split <;> omega
  have last : year / 400 = (year - 1) / 400 + if year % 400 = 0 then 1 else 0 := by
    split <;> omega
  have fewer : (year - 1) / 100 ≤ (year - 1) / 4 := by omega
  have ofHundred : year % 100 = 0 → year % 4 = 0 := by omega
  have ofLast : year % 400 = 0 → year % 100 = 0 := by omega
  rw [daysBeforeMonth_thirteen]
  simp only [daysBeforeYear, isLeapYear_iff, Nat.add_sub_cancel, fourth, hundredth, last]
  split_ifs <;> omega

theorem daysBeforeYear_mono : Monotone daysBeforeYear := by
  apply monotone_nat_of_le_succ
  intro year
  cases year with
  | zero => exact Nat.le_refl 0
  | succ year =>
      rw [daysBeforeYear_succ (Nat.succ_pos year)]
      exact Nat.le_add_right _ _

theorem ordinal_in_month (date : Date) :
    daysBeforeYear date.year + daysBeforeMonth date.year date.month < date.ordinal ∧
      date.ordinal ≤ daysBeforeYear date.year + daysBeforeMonth date.year (date.month + 1) := by
  obtain ⟨_, _, least, most⟩ := date.exists_
  rw [daysBeforeMonth_succ date.year date.month_bounds.1, ordinal, dayNumber]
  omega

theorem ordinal_in_year (date : Date) :
    daysBeforeYear date.year < date.ordinal ∧ date.ordinal ≤ daysBeforeYear (date.year + 1) := by
  obtain ⟨later, earlier⟩ := date.ordinal_in_month
  have inYear : daysBeforeMonth date.year (date.month + 1) ≤ daysBeforeMonth date.year 13 :=
    daysBeforeMonth_mono date.year (Nat.succ_le_succ date.month_bounds.2)
  rw [daysBeforeYear_succ date.exists_.1]
  omega

theorem eq_of_between {before : Nat → Nat} (mono : Monotone before) {number first second : Nat}
    (inFirst : before first < number ∧ number ≤ before (first + 1))
    (inSecond : before second < number ∧ number ≤ before (second + 1)) : first = second := by
  by_contra different
  by_cases less : first < second
  · have ends : before (first + 1) ≤ before second := mono less
    omega
  · have more : second + 1 ≤ first := by omega
    have ends := mono more
    omega

theorem ordinal_injective {first second : Date} (same : first.ordinal = second.ordinal) :
    first = second := by
  have inYear := second.ordinal_in_year
  rw [← same] at inYear
  have sameYear : first.year = second.year :=
    eq_of_between daysBeforeYear_mono first.ordinal_in_year inYear
  have inFirst := first.ordinal_in_month
  have inSecond := second.ordinal_in_month
  rw [← same, ← sameYear] at inSecond
  have mono : Monotone fun month =>
      daysBeforeYear first.year + daysBeforeMonth first.year month := by
    intro earlier later before
    exact Nat.add_le_add_left (daysBeforeMonth_mono first.year before) _
  have sameMonth : first.month = second.month := eq_of_between mono inFirst inSecond
  have sameDay : first.day = second.day := by
    rw [ordinal, ordinal, dayNumber, dayNumber, sameYear, sameMonth] at same
    omega
  cases first
  cases second
  cases sameYear
  cases sameMonth
  cases sameDay
  rfl

def first : Date := ⟨firstYear, 1, 1, by decide⟩

def last : Date := ⟨lastYear, 12, 31, by decide⟩

theorem ordinal_bounds (date : Date) :
    first.ordinal ≤ date.ordinal ∧ date.ordinal ≤ last.ordinal := by
  obtain ⟨least, most, _⟩ := date.exists_
  obtain ⟨later, earlier⟩ := date.ordinal_in_year
  have notBefore := daysBeforeYear_mono least
  have notAfter : daysBeforeYear (date.year + 1) ≤ daysBeforeYear (lastYear + 1) :=
    daysBeforeYear_mono (Nat.succ_le_succ most)
  have start : first.ordinal = daysBeforeYear firstYear + 1 := rfl
  have stop : last.ordinal = daysBeforeYear (lastYear + 1) := rfl
  omega

theorem dayNumber_nextMonth (year : Nat) {month : Nat} (least : 1 ≤ month) :
    dayNumber year (month + 1) 1 = dayNumber year month (daysInMonth year month) + 1 := by
  have months := daysBeforeMonth_succ year least
  unfold dayNumber
  omega

theorem dayNumber_nextYear {year : Nat} (least : 1 ≤ year) :
    dayNumber (year + 1) 1 1 = dayNumber year 12 31 + 1 := by
  have years := daysBeforeYear_succ least
  have months : daysBeforeMonth year 13 = daysBeforeMonth year 12 + 31 :=
    daysBeforeMonth_succ year (by decide)
  have january : daysBeforeMonth (year + 1) 1 = 0 := rfl
  unfold dayNumber
  omega

/-- A day has one after it in its month, in its year, in the calendar, or none. -/
theorem next?_cases (date : Date) :
    (∃ next, date.next? = some next ∧ next.ordinal = date.ordinal + 1) ∨
      (date.next? = none ∧ date.ordinal = last.ordinal) := by
  obtain ⟨leastYear, mostYear, leastDay, mostDay⟩ := date.exists_
  obtain ⟨leastMonth, mostMonth⟩ := date.month_bounds
  have number : date.ordinal = dayNumber date.year date.month date.day := rfl
  unfold next?
  by_cases inMonth : date.day < daysInMonth date.year date.month
  · have isDate : IsDate date.year date.month (date.day + 1) :=
      ⟨leastYear, mostYear, by omega, inMonth⟩
    obtain ⟨next, found, nextNumber⟩ := exists_ofParts? isDate
    exact .inl ⟨next, by rw [if_pos inMonth, found], nextNumber⟩
  · have lastDay : date.day = daysInMonth date.year date.month := by omega
    rw [if_neg inMonth]
    by_cases inYear : date.month < 12
    · have isDate : IsDate date.year (date.month + 1) 1 :=
        ⟨leastYear, mostYear, Nat.le_refl 1, daysInMonth_pos_iff.mpr ⟨by omega, inYear⟩⟩
      obtain ⟨next, found, nextNumber⟩ := exists_ofParts? isDate
      refine .inl ⟨next, by rw [if_pos inYear, found], ?_⟩
      rw [nextNumber, number, dayNumber_nextMonth date.year leastMonth, lastDay]
    · have december : date.month = 12 := by omega
      rw [december] at lastDay number
      have lastOfYear : date.day = 31 := lastDay
      rw [if_neg inYear]
      by_cases inCalendar : date.year < lastYear
      · have isDate : IsDate (date.year + 1) 1 1 :=
          ⟨by omega, inCalendar, Nat.le_refl 1, daysInMonth_pos_iff.mpr (by decide)⟩
        obtain ⟨next, found, nextNumber⟩ := exists_ofParts? isDate
        refine .inl ⟨next, found, ?_⟩
        rw [nextNumber, number, dayNumber_nextYear leastYear, lastOfYear]
      · have sameYear : date.year = lastYear := by omega
        have outside : ¬ IsDate (date.year + 1) 1 1 := by
          rintro ⟨_, most, _⟩
          omega
        refine .inr ⟨dif_neg outside, ?_⟩
        rw [number, lastOfYear, sameYear]
        rfl

theorem previous?_cases (date : Date) :
    (∃ previous, date.previous? = some previous ∧ date.ordinal = previous.ordinal + 1) ∨
      (date.previous? = none ∧ date.ordinal = first.ordinal) := by
  obtain ⟨leastYear, mostYear, leastDay, mostDay⟩ := date.exists_
  obtain ⟨leastMonth, mostMonth⟩ := date.month_bounds
  have number : date.ordinal = dayNumber date.year date.month date.day := rfl
  unfold previous?
  by_cases inMonth : 1 < date.day
  · obtain ⟨day, isDay⟩ : ∃ day, date.day = day + 1 := Nat.exists_eq_add_one.mpr leastDay
    rw [isDay] at inMonth mostDay number
    have isDate : IsDate date.year date.month day := ⟨leastYear, mostYear, by omega, by omega⟩
    obtain ⟨previous, found, previousNumber⟩ := exists_ofParts? isDate
    refine .inl ⟨previous, by rw [isDay, if_pos inMonth, Nat.add_sub_cancel, found], ?_⟩
    rw [previousNumber, number]
    rfl
  · have firstDay : date.day = 1 := by omega
    rw [firstDay] at number
    rw [if_neg inMonth]
    by_cases inYear : 1 < date.month
    · obtain ⟨month, isMonth⟩ : ∃ month, date.month = month + 1 :=
        Nat.exists_eq_add_one.mpr leastMonth
      rw [isMonth] at inYear number
      have isDate : IsDate date.year month (daysInMonth date.year month) :=
        ⟨leastYear, mostYear, daysInMonth_pos_iff.mpr ⟨by omega, by omega⟩, Nat.le_refl _⟩
      obtain ⟨previous, found, previousNumber⟩ := exists_ofParts? isDate
      refine .inl ⟨previous, by rw [isMonth, if_pos inYear, Nat.add_sub_cancel, found], ?_⟩
      rw [previousNumber, number, dayNumber_nextMonth date.year (by omega)]
    · have january : date.month = 1 := by omega
      rw [january] at number
      rw [if_neg inYear]
      obtain ⟨year, isYear⟩ : ∃ year, date.year = year + 1 := Nat.exists_eq_add_one.mpr leastYear
      rw [isYear] at mostYear number
      by_cases inCalendar : firstYear ≤ year
      · have isDate : IsDate year 12 31 := ⟨inCalendar, by omega, by decide, Nat.le_refl 31⟩
        obtain ⟨previous, found, previousNumber⟩ := exists_ofParts? isDate
        refine .inl ⟨previous, by rw [isYear, Nat.add_sub_cancel, found], ?_⟩
        rw [previousNumber, number, dayNumber_nextYear inCalendar]
      · have outside : ¬ IsDate year 12 31 := fun isDate => inCalendar isDate.1
        have noYear : year = 0 := by
          unfold firstYear at inCalendar
          omega
        refine .inr ⟨by rw [isYear, Nat.add_sub_cancel]; exact dif_neg outside, ?_⟩
        rw [number, noYear]
        rfl

end Date

namespace TimeOfDay

theorem sinceMidnight_lt (time : TimeOfDay) : time.sinceMidnight < dayLength := by
  obtain ⟨_, _, _, _⟩ := time.exists_
  unfold sinceMidnight dayLength
  omega

theorem sinceMidnight_ofSinceMidnight {microseconds : Nat} (inDay : microseconds < dayLength) :
    (ofSinceMidnight microseconds).sinceMidnight = microseconds := by
  unfold dayLength at inDay
  simp only [sinceMidnight, ofSinceMidnight]
  omega

theorem ofSinceMidnight_sinceMidnight (time : TimeOfDay) :
    ofSinceMidnight time.sinceMidnight = time := by
  obtain ⟨hour, minute, second, microsecond, exists_⟩ := time
  obtain ⟨inDay, inHour, inMinute, inSecond⟩ := exists_
  have hours : (((hour * 60 + minute) * 60 + second) * 1000000 + microsecond) / 3600000000 % 24 =
      hour := by omega
  have minutes : (((hour * 60 + minute) * 60 + second) * 1000000 + microsecond) / 60000000 % 60 =
      minute := by omega
  have seconds : (((hour * 60 + minute) * 60 + second) * 1000000 + microsecond) / 1000000 % 60 =
      second := by omega
  have microseconds : (((hour * 60 + minute) * 60 + second) * 1000000 + microsecond) % 1000000 =
      microsecond := by omega
  simp only [ofSinceMidnight, sinceMidnight, hours, minutes, seconds, microseconds]

theorem sinceMidnight_injective {first second : TimeOfDay}
    (same : first.sinceMidnight = second.sinceMidnight) : first = second := by
  rw [← ofSinceMidnight_sinceMidnight first, same, ofSinceMidnight_sinceMidnight]

end TimeOfDay

end TolerantValidation
