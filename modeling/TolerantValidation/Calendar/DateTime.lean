import TolerantValidation.Calendar.Date

/-!
Times of day, offsets from UTC and date-times, to the microsecond.
-/

namespace TolerantValidation

def IsTimeOfDay (hour minute second microsecond : Nat) : Prop :=
  hour < 24 ∧ minute < 60 ∧ second < 60 ∧ microsecond < 1000000

instance (hour minute second microsecond : Nat) :
    Decidable (IsTimeOfDay hour minute second microsecond) := by
  unfold IsTimeOfDay
  infer_instance

structure TimeOfDay where
  hour : Nat
  minute : Nat
  second : Nat
  microsecond : Nat
  exists_ : IsTimeOfDay hour minute second microsecond
deriving DecidableEq

def dayLength : Nat := 86400000000

namespace TimeOfDay

def ofParts? (hour minute second microsecond : Nat) : Option TimeOfDay :=
  if exists_ : IsTimeOfDay hour minute second microsecond then
    some ⟨hour, minute, second, microsecond, exists_⟩
  else none

def midnight : TimeOfDay := ⟨0, 0, 0, 0, by decide⟩

def sinceMidnight (time : TimeOfDay) : Nat :=
  ((time.hour * 60 + time.minute) * 60 + time.second) * 1000000 + time.microsecond

def ofSinceMidnight (microseconds : Nat) : TimeOfDay :=
  { hour := microseconds / 3600000000 % 24
    minute := microseconds / 60000000 % 60
    second := microseconds / 1000000 % 60
    microsecond := microseconds % 1000000
    exists_ := by unfold IsTimeOfDay; omega }

end TimeOfDay

def IsOffset (microseconds : Int) : Prop :=
  -(dayLength : Int) < microseconds ∧ microseconds < dayLength

instance (microseconds : Int) : Decidable (IsOffset microseconds) := by
  unfold IsOffset
  infer_instance

structure Offset where
  microseconds : Int
  exists_ : IsOffset microseconds
deriving DecidableEq

namespace Offset

def ofMicroseconds? (microseconds : Int) : Option Offset :=
  if exists_ : IsOffset microseconds then some ⟨microseconds, exists_⟩ else none

def utc : Offset := ⟨0, by decide⟩

end Offset

structure DateTime where
  date : Date
  time : TimeOfDay
  offset : Option Offset
deriving DecidableEq

namespace DateTime

def localMicroseconds (moment : DateTime) : Int :=
  (moment.date.ordinal : Int) * dayLength + moment.time.sinceMidnight

/-- Microseconds since the start of the calendar in UTC; a local clock of unknown offset counts as
UTC. -/
def instant (moment : DateTime) : Int :=
  moment.localMicroseconds - (moment.offset.map Offset.microseconds).getD 0

/-- The same instant on the UTC clock, unless it lies outside the calendar. A time without offset is
UTC already. -/
def toUtc? (moment : DateTime) : Option DateTime :=
  match moment.offset with
  | none => some { moment with offset := some .utc }
  | some offset =>
    let shifted := (moment.time.sinceMidnight : Int) - offset.microseconds
    let date? :=
      if shifted < 0 then moment.date.previous?
      else if shifted < dayLength then some moment.date
      else moment.date.next?
    date?.map fun date =>
      ⟨date, TimeOfDay.ofSinceMidnight (shifted % dayLength).toNat, some .utc⟩

def same (left right : DateTime) : Bool :=
  left.offset.isSome == right.offset.isSome && left.instant == right.instant

end DateTime
end TolerantValidation
