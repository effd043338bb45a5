import TolerantValidation.Proofs.Calendar.Ordinal

/-!
The shift to UTC goes to the same instant, and fails only for instants beyond the calendar.
-/

namespace TolerantValidation.DateTime

def earliest : DateTime := ⟨.first, .midnight, some .utc⟩

def latest : DateTime := ⟨.last, ⟨23, 59, 59, 999999, by decide⟩, some .utc⟩

def IsUtc (moment : DateTime) : Prop := moment.offset = some .utc

theorem IsUtc.instant {utc : DateTime} (isUtc : utc.IsUtc) :
    utc.instant = (utc.date.ordinal : Int) * dayLength + utc.time.sinceMidnight := by
  have noShift : Offset.utc.microseconds = 0 := rfl
  rw [DateTime.instant, isUtc, localMicroseconds, Option.map_some, Option.getD_some, noShift,
    Int.sub_zero]

theorem IsUtc.eq_of_instant {first second : DateTime} (isFirst : first.IsUtc)
    (isSecond : second.IsUtc) (same : first.instant = second.instant) : first = second := by
  have inFirst := first.time.sinceMidnight_lt
  have inSecond := second.time.sinceMidnight_lt
  rw [isFirst.instant, isSecond.instant] at same
  unfold dayLength at same inFirst inSecond
  have sameDate : first.date = second.date := Date.ordinal_injective (by omega)
  have sameTime : first.time = second.time := TimeOfDay.sinceMidnight_injective (by omega)
  have sameOffset : first.offset = second.offset := isFirst.trans isSecond.symm
  cases first
  cases second
  cases sameDate
  cases sameTime
  cases sameOffset
  rfl

theorem instant_earliest : earliest.instant = (Date.first.ordinal : Int) * dayLength := by
  have isUtc : earliest.IsUtc := rfl
  rw [isUtc.instant]
  rfl

theorem instant_latest :
    latest.instant = (Date.last.ordinal : Int) * dayLength + (dayLength - 1) := by
  have isUtc : latest.IsUtc := rfl
  rw [isUtc.instant]
  rfl

theorem IsUtc.instant_bounds {utc : DateTime} (isUtc : utc.IsUtc) :
    earliest.instant ≤ utc.instant ∧ utc.instant ≤ latest.instant := by
  have inDay := utc.time.sinceMidnight_lt
  obtain ⟨notBefore, notAfter⟩ := utc.date.ordinal_bounds
  rw [isUtc.instant, instant_earliest, instant_latest]
  unfold dayLength at *
  omega

theorem instant_ofSinceMidnight (date : Date) {clock : Int} (least : 0 ≤ clock)
    (most : clock < dayLength) :
    instant ⟨date, .ofSinceMidnight clock.toNat, some .utc⟩ =
      (date.ordinal : Int) * dayLength + clock := by
  have isUtc : IsUtc ⟨date, .ofSinceMidnight clock.toNat, some .utc⟩ := rfl
  have inDay : clock.toNat < dayLength := by omega
  rw [isUtc.instant, TimeOfDay.sinceMidnight_ofSinceMidnight inDay, Int.toNat_of_nonneg least]

theorem carriedDate_cases (date : Date) {clock : Int} (least : -(dayLength : Int) < clock)
    (most : clock < 2 * dayLength) {date? : Option Date}
    (carried : date? = if clock < 0 then date.previous?
      else if clock < dayLength then some date else date.next?) :
    (∃ day, date? = some day ∧
      (day.ordinal : Int) * dayLength + clock % dayLength = date.ordinal * dayLength + clock) ∨
    (date? = none ∧ ((date.ordinal : Int) * dayLength + clock < earliest.instant ∨
      latest.instant < date.ordinal * dayLength + clock)) := by
  rw [instant_earliest, instant_latest]
  unfold dayLength at *
  by_cases before : clock < 0
  · rw [if_pos before] at carried
    rcases date.previous?_cases with ⟨previous, found, number⟩ | ⟨none, number⟩
    · refine .inl ⟨previous, carried.trans found, ?_⟩
      omega
    · refine .inr ⟨carried.trans none, .inl ?_⟩
      rw [number]
      omega
  · rw [if_neg before] at carried
    by_cases within : clock < (86400000000 : Nat)
    · rw [if_pos within] at carried
      refine .inl ⟨date, carried, ?_⟩
      omega
    · rw [if_neg within] at carried
      rcases date.next?_cases with ⟨next, found, number⟩ | ⟨none, number⟩
      · refine .inl ⟨next, carried.trans found, ?_⟩
        omega
      · refine .inr ⟨carried.trans none, .inr ?_⟩
        rw [number]
        omega

/-- An offset shifts the clock into the day before, within the day, or into the day after. -/
theorem toUtc?_cases (moment : DateTime) :
    (∃ utc, moment.toUtc? = some utc ∧ utc.IsUtc ∧ utc.instant = moment.instant) ∨
      (moment.toUtc? = none ∧
        (moment.instant < earliest.instant ∨ latest.instant < moment.instant)) := by
  unfold toUtc?
  cases known : moment.offset with
  | none =>
      have isUtc : IsUtc { moment with offset := some .utc } := rfl
      refine .inl ⟨_, rfl, isUtc, ?_⟩
      rw [isUtc.instant, instant, known, localMicroseconds, Option.map_none, Option.getD_none,
        Int.sub_zero]
  | some offset =>
      dsimp only
      obtain ⟨clock, isClock⟩ :
        ∃ clock, (moment.time.sinceMidnight : Int) - offset.microseconds = clock := ⟨_, rfl⟩
      have inDay := moment.time.sinceMidnight_lt
      obtain ⟨least, most⟩ := offset.exists_
      have whole : moment.instant = (moment.date.ordinal : Int) * dayLength + clock := by
        rw [instant, known, localMicroseconds, Option.map_some, Option.getD_some, ← isClock]
        omega
      have shown : 0 ≤ clock % dayLength ∧ clock % dayLength < dayLength := by
        unfold dayLength
        omega
      have bounds : -(dayLength : Int) < clock ∧ clock < 2 * dayLength := by omega
      rw [isClock, whole]
      rcases carriedDate_cases moment.date bounds.1 bounds.2 rfl with
        ⟨day, found, same⟩ | ⟨none, beyond⟩
      · have isUtc : IsUtc ⟨day, .ofSinceMidnight (clock % dayLength).toNat, some .utc⟩ := rfl
        refine .inl ⟨_, by rw [found, Option.map_some], isUtc, ?_⟩
        rw [instant_ofSinceMidnight day shown.1 shown.2]
        exact same
      · exact .inr ⟨by rw [none, Option.map_none], beyond⟩

theorem toUtc?_eq_some_iff {moment utc : DateTime} :
    moment.toUtc? = some utc ↔ utc.IsUtc ∧ utc.instant = moment.instant := by
  rcases moment.toUtc?_cases with ⟨found, shifted, isUtc, same⟩ | ⟨none, beyond⟩
  · rw [shifted, Option.some_inj]
    constructor
    · rintro rfl
      exact ⟨isUtc, same⟩
    · rintro ⟨alsoUtc, alsoSame⟩
      exact isUtc.eq_of_instant alsoUtc (same.trans alsoSame.symm)
  · rw [none]
    refine ⟨nofun, ?_⟩
    rintro ⟨isUtc, same⟩
    have bounds := isUtc.instant_bounds
    omega

theorem toUtc?_eq_none_iff {moment : DateTime} :
    moment.toUtc? = none ↔
      moment.instant < earliest.instant ∨ latest.instant < moment.instant := by
  rcases moment.toUtc?_cases with ⟨found, shifted, isUtc, same⟩ | ⟨none, beyond⟩
  · rw [shifted]
    refine ⟨nofun, ?_⟩
    have bounds := isUtc.instant_bounds
    omega
  · exact ⟨fun _ => beyond, fun _ => none⟩

end TolerantValidation.DateTime
