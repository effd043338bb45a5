/-!
Calendar dates of the years 1 to 9999, with the day before and the day after. Every date that can
be written down exists: the type carries the proof.
-/

namespace TolerantValidation

def isLeapYear (year : Nat) : Bool :=
  year % 4 = 0 && (year % 100 ≠ 0 || year % 400 = 0)

def daysInMonth (year month : Nat) : Nat :=
  match month with
  | 1 | 3 | 5 | 7 | 8 | 10 | 12 => 31
  | 4 | 6 | 9 | 11 => 30
  | 2 => if isLeapYear year then 29 else 28
  | _ => 0

def firstYear : Nat := 1

def lastYear : Nat := 9999

def IsDate (year month day : Nat) : Prop :=
  firstYear ≤ year ∧ year ≤ lastYear ∧ 1 ≤ day ∧ day ≤ daysInMonth year month

instance (year month day : Nat) : Decidable (IsDate year month day) := by
  unfold IsDate
  infer_instance

structure Date where
  year : Nat
  month : Nat
  day : Nat
  exists_ : IsDate year month day
deriving DecidableEq

namespace Date

def ofParts? (year month day : Nat) : Option Date :=
  if exists_ : IsDate year month day then some ⟨year, month, day, exists_⟩ else none

def next? (date : Date) : Option Date :=
  if date.day < daysInMonth date.year date.month then
    ofParts? date.year date.month (date.day + 1)
  else if date.month < 12 then ofParts? date.year (date.month + 1) 1
  else ofParts? (date.year + 1) 1 1

def previous? (date : Date) : Option Date :=
  if 1 < date.day then ofParts? date.year date.month (date.day - 1)
  else if 1 < date.month then
    ofParts? date.year (date.month - 1) (daysInMonth date.year (date.month - 1))
  else ofParts? (date.year - 1) 12 31

def daysBeforeYear (year : Nat) : Nat :=
  let past := year - 1
  past * 365 + past / 4 - past / 100 + past / 400

def daysBeforeMonth (year : Nat) : Nat → Nat
  | 0 => 0
  | 1 => 0
  | month + 2 => daysBeforeMonth year (month + 1) + daysInMonth year (month + 1)

def dayNumber (year month day : Nat) : Nat :=
  daysBeforeYear year + daysBeforeMonth year month + day

def ordinal (date : Date) : Nat :=
  dayNumber date.year date.month date.day

def ofDayOfMonths? (year month : Nat) : Nat → Nat → Option Date
  | 0, _ => none
  | fuel + 1, count =>
    if count ≤ daysInMonth year month then ofParts? year month count
    else ofDayOfMonths? year (month + 1) fuel (count - daysInMonth year month)

def ofOrdinalNear? (year ordinal : Nat) : Option Date :=
  if ordinal ≤ daysBeforeYear year then
    ofDayOfMonths? (year - 1) 1 12 (ordinal - daysBeforeYear (year - 1))
  else if ordinal ≤ daysBeforeYear (year + 1) then
    ofDayOfMonths? year 1 12 (ordinal - daysBeforeYear year)
  else ofDayOfMonths? (year + 1) 1 12 (ordinal - daysBeforeYear (year + 1))

def weekday (ordinal : Nat) : Nat :=
  (ordinal + 6) % 7

/-- The number of the Monday that begins the first week of a year: the week with its first
Thursday. -/
def firstMonday (year : Nat) : Nat :=
  let newYear := dayNumber year 1 1
  if weekday newYear > 3 then newYear + 7 - weekday newYear else newYear - weekday newYear

def hasLongWeekYear (year : Nat) : Bool :=
  let first := weekday (dayNumber year 1 1)
  first = 3 || (first = 2 && isLeapYear year)

def ofWeek? (year week day : Nat) : Option Date :=
  if year < firstYear ∨ year > lastYear then none
  else if week = 0 ∨ week > 53 ∨ (week = 53 ∧ hasLongWeekYear year = false) then none
  else if day = 0 ∨ day > 7 then none
  else ofOrdinalNear? year (firstMonday year + 7 * (week - 1) + (day - 1))

end Date
end TolerantValidation
