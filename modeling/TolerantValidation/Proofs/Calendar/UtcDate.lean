import TolerantValidation.Document.Format
import TolerantValidation.Proofs.Calendar.IsoText
import TolerantValidation.Proofs.Calendar.Utc

/-!
Timestamps are read as UTC exactly: the text of a date-time is taken to the same instant, if the
calendar has it.
-/

namespace TolerantValidation.Document

open DateTime (earliest latest)

def isoText (moment : DateTime) : String :=
  String.ofList (Iso.dateTimeText 'T' moment)

theorem readUtcDate_isoText {moment : DateTime}
    (whole : ∀ offset, moment.offset = some offset → Iso.IsWholeOffset offset) :
    readUtcDate (isoText moment) =
      match moment.toUtc? with
      | none => .error .outsideCalendar
      | some utc => .ok (.dateTime utc) := by
  simp only [readUtcDate, isoText, String.toList_ofList, Iso.isBlank_dateTimeText,
    Iso.readDateTime?_dateTimeText 'T' whole]
  rfl

theorem readUtcDate_isoText_of_isUtc {utc : DateTime} (isUtc : utc.IsUtc) :
    readUtcDate (isoText utc) = .ok (.dateTime utc) := by
  have whole : ∀ offset, utc.offset = some offset → Iso.IsWholeOffset offset := by
    intro offset known
    cases isUtc.symm.trans known
    exact Nat.zero_mod 1000000
  rw [readUtcDate_isoText whole, DateTime.toUtc?_eq_some_iff.mpr ⟨isUtc, rfl⟩]

theorem exists_isUtc_of_readUtcDate {text : String} {value : Value}
    (returned : readUtcDate text = .ok value) :
    ∃ utc, value = .dateTime utc ∧ utc.IsUtc := by
  unfold readUtcDate at returned
  split at returned
  · cases returned
  · split at returned
    · cases returned
    · split at returned
      · cases returned
      · rename_i shifted
        cases returned
        exact ⟨_, rfl, (DateTime.toUtc?_eq_some_iff.mp shifted).1⟩

/-- Reading a date-time as UTC is exact: the result is the same instant, it is missing for exactly
the instants beyond the calendar, a time without offset keeps its fields, and whatever is read in
any form is read again from the form that is written. -/
theorem readUtcDate_exact :
    (∀ moment offset, moment.offset = some offset → Iso.IsWholeOffset offset →
      (∀ value, readUtcDate (isoText moment) = .ok value ↔
        ∃ utc, value = .dateTime utc ∧ utc.IsUtc ∧ utc.instant = moment.instant) ∧
      ∀ fault, readUtcDate (isoText moment) = .error fault ↔
        fault = .outsideCalendar ∧
          (moment.instant < earliest.instant ∨ latest.instant < moment.instant)) ∧
    (∀ moment, moment.offset = none →
      readUtcDate (isoText moment) = .ok (.dateTime { moment with offset := some .utc })) ∧
    ∀ text value, readUtcDate text = .ok value →
      ∃ utc, value = .dateTime utc ∧ utc.IsUtc ∧ readUtcDate (isoText utc) = .ok value := by
  refine ⟨?_, ?_, ?_⟩
  · intro moment offset known isWhole
    have whole : ∀ other, moment.offset = some other → Iso.IsWholeOffset other := by
      intro other alsoKnown
      cases known.symm.trans alsoKnown
      exact isWhole
    rw [readUtcDate_isoText whole]
    cases shifted : moment.toUtc? with
    | none =>
        have beyond := DateTime.toUtc?_eq_none_iff.mp shifted
        refine ⟨fun value => ⟨nofun, ?_⟩, fun fault => ?_⟩
        · rintro ⟨utc, _, isUtc⟩
          rw [DateTime.toUtc?_eq_some_iff.mpr isUtc] at shifted
          cases shifted
        · rw [Except.error.injEq]
          exact ⟨fun same => ⟨same.symm, beyond⟩, fun ⟨same, _⟩ => same.symm⟩
    | some utc =>
        have isUtc := DateTime.toUtc?_eq_some_iff.mp shifted
        refine ⟨fun value => ⟨?_, ?_⟩, fun fault => ⟨nofun, ?_⟩⟩
        · rintro ⟨⟩
          exact ⟨utc, rfl, isUtc⟩
        · rintro ⟨other, rfl, alsoUtc⟩
          cases shifted.symm.trans (DateTime.toUtc?_eq_some_iff.mpr alsoUtc)
          rfl
        · rintro ⟨_, beyond⟩
          rw [DateTime.toUtc?_eq_none_iff.mpr beyond] at shifted
          cases shifted
  · intro moment unknown
    have whole : ∀ offset, moment.offset = some offset → Iso.IsWholeOffset offset := by
      intro offset known
      cases unknown.symm.trans known
    rw [readUtcDate_isoText whole, DateTime.toUtc?, unknown]
  · intro text value returned
    obtain ⟨utc, rfl, isUtc⟩ := exists_isUtc_of_readUtcDate returned
    exact ⟨utc, rfl, isUtc, readUtcDate_isoText_of_isUtc isUtc⟩

def afterLeapDay : DateTime :=
  ⟨⟨2024, 3, 1, by decide⟩, ⟨0, 30, 0, 0, by decide⟩, some ⟨3600000000, by decide⟩⟩

def beforeCalendar : DateTime := ⟨.first, .midnight, some ⟨60000000, by decide⟩⟩

theorem readUtcDate_exact_of_leapDay :
    readUtcDate "2024-03-01T00:30:00+01:00" =
        .ok (.dateTime ⟨⟨2024, 2, 29, by decide⟩, ⟨23, 30, 0, 0, by decide⟩, some .utc⟩) ∧
      readUtcDate "0001-01-01T00:00:00+00:01" = .error .outsideCalendar ∧
      readUtcDate "2024-02-29T23:30:00" =
        .ok (.dateTime ⟨⟨2024, 2, 29, by decide⟩, ⟨23, 30, 0, 0, by decide⟩, some .utc⟩) := by
  obtain ⟨shifts, keeps, _⟩ := readUtcDate_exact
  have after : isoText afterLeapDay = "2024-03-01T00:30:00+01:00" := by decide +kernel
  have before : isoText beforeCalendar = "0001-01-01T00:00:00+00:01" := by decide +kernel
  have unknown : isoText ⟨⟨2024, 2, 29, by decide⟩, ⟨23, 30, 0, 0, by decide⟩, none⟩ =
      "2024-02-29T23:30:00" := by decide +kernel
  have afterIsWhole : Iso.IsWholeOffset ⟨3600000000, by decide⟩ := by decide
  have beforeIsWhole : Iso.IsWholeOffset ⟨60000000, by decide⟩ := by decide
  rw [← after, ← before, ← unknown]
  refine ⟨?_, ?_, keeps _ rfl⟩
  · refine ((shifts afterLeapDay _ rfl afterIsWhole).1 _).mpr ⟨_, rfl, rfl, ?_⟩
    decide
  · refine ((shifts beforeCalendar _ rfl beforeIsWhole).2 _).mpr ⟨rfl, .inl ?_⟩
    decide

end TolerantValidation.Document
