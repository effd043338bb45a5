import TolerantValidation.Proofs.Validator.Failures

/-!
Keys that nothing can be stored under. A mapping whose parts are all answered stops at the first
entry that has such a key and is accepted, and nowhere else.
-/

namespace TolerantValidation

/-- Besides what is stored already, something can be stored under what the check accepts the part
as, if it does. -/
def IsStorable (check : Value → Run Verdict) (stored : List (Value × Value)) (part : Value) :
    Prop :=
  ∀ accepted, (check part).outcome = .ok (.ok accepted) → accepted.keyFault? stored = none

/-- Both parts of the entry are accepted, the key as something that nothing can be stored under,
besides what is stored already. -/
def CannotStore (checkKey checkValue : Value → Run Verdict) (stored : List (Value × Value))
    (entry : Value × Value) (fault : Fault) : Prop :=
  ∃ accepted keyFault, (checkKey entry.1).outcome = .ok (.ok accepted) ∧
    accepted.keyFault? stored = some keyFault ∧ Accepts checkValue entry.2 ∧
    fault = .ofKey keyFault

namespace Validator

section Entries

variable {checkKey checkValue : Value → Run Verdict} {entry : Value × Value} {fault : Fault}
variable {state : List (Value × Value) × List Issue}

theorem store_outcome_eq_error {key value : Value} {stored : List (Value × Value)} :
    (store key value stored).outcome = .error fault ↔
      ∃ keyFault, key.keyFault? stored = some keyFault ∧ fault = .ofKey keyFault := by
  unfold store
  cases key.keyFault? stored with
  | none => exact ⟨nofun, nofun⟩
  | some keyFault =>
      constructor
      · rintro ⟨⟩
        exact ⟨keyFault, rfl, rfl⟩
      · rintro ⟨_, ⟨⟩, rfl⟩
        rfl

theorem sortEntry_outcome_eq_error (keyAnswers : (checkKey entry.1).Answers)
    (valueAnswers : (checkValue entry.2).Answers) :
    (sortEntry checkKey checkValue state entry).outcome = .error fault ↔
      state.2 = [] ∧ CannotStore checkKey checkValue state.1 entry fault := by
  obtain ⟨keyVerdict, keyAnswered⟩ := keyAnswers
  obtain ⟨valueVerdict, valueAnswered⟩ := valueAnswers
  simp only [sortEntry, Effect.bind_ok keyAnswered, Effect.bind_ok valueAnswered, CannotStore,
    Accepts, keyAnswered, valueAnswered]
  cases keyVerdict with
  | err failure => simp
  | ok key =>
      cases valueVerdict with
      | err failure => simp
      | ok value =>
          by_cases noIssues : state.2 = []
          · simp only [Effect.bind_pure_outcome_eq_error, noIssues, List.isEmpty_nil, if_true,
              store_outcome_eq_error]
            simp
          · simp [noIssues]

theorem sortLooseEntry_outcome_eq_error (keyAnswers : (checkKey entry.1).Answers)
    (valueAnswers : (checkValue entry.2).Answers) :
    (sortLooseEntry checkKey checkValue state entry).outcome = .error fault ↔
      CannotStore checkKey checkValue state.1 entry fault := by
  obtain ⟨keyVerdict, keyAnswered⟩ := keyAnswers
  obtain ⟨valueVerdict, valueAnswered⟩ := valueAnswers
  simp only [sortLooseEntry, Effect.bind_ok keyAnswered, CannotStore, Accepts, keyAnswered,
    valueAnswered]
  cases keyVerdict with
  | err failure => simp
  | ok key =>
      simp only [Effect.bind_ok valueAnswered]
      cases valueVerdict with
      | err failure => simp
      | ok value =>
          simp only [Effect.bind_pure_outcome_eq_error, store_outcome_eq_error]
          simp

end Entries

section Mappings

variable {key value : Validator} {input : Value} {entries : List (Value × Value)}

theorem record_outcome_eq_error (mapping : input.entries? = some entries)
    (keys : ∀ entry ∈ entries, (key.run entry.1).Answers)
    (values : ∀ entry ∈ entries, (value.run entry.2).Answers) (fault : Fault) :
    ((Validator.record value key).run input).outcome = .error fault ↔
      ∃ before entry after, entries = before ++ entry :: after ∧
        (∀ earlier ∈ before, Accepts key.run earlier.1 ∧ Accepts value.run earlier.2) ∧
        Value.CanBeStored [] (acceptedPairs key value before) ∧
        CannotStore key.run value.run (Value.ofPairs (acceptedPairs key value before)) entry
          fault := by
  simp only [run_record, recordOf, mapping, sortEntries_eq_foldlM]
  rw [Effect.bind_pure_outcome_eq_error, Effect.foldlM_outcome_eq_error]
  constructor
  · rintro ⟨before, entry, after, state, rfl, reached, stopped⟩
    have member : entry ∈ before ++ entry :: after := by simp
    -- A strict mapping stores only while nothing was refused.
    obtain ⟨noIssues, cannotStore⟩ :=
      (sortEntry_outcome_eq_error (keys entry member) (values entry member)).mp stopped
    obtain ⟨accepted, _, storable, storedEq⟩ := sortEntries_accepted reached noIssues
    rw [storedEq] at cannotStore
    exact ⟨before, entry, after, rfl, accepted, storable, cannotStore⟩
  · rintro ⟨before, entry, after, rfl, accepted, storable, cannotStore⟩
    have member : entry ∈ before ++ entry :: after := by simp
    have reached := sortEntries_of_accepts accepted storable
    rw [sortEntries_eq_foldlM] at reached
    exact ⟨before, entry, after, _, rfl, reached,
      (sortEntry_outcome_eq_error (keys entry member) (values entry member)).mpr
        ⟨rfl, cannotStore⟩⟩

theorem looseRecord_outcome_of_returns {onError : Option Sink}
    (returns : ∀ callback ∈ onError, ∀ context, (callback context).Answers) :
    ((Validator.looseRecord value key onError).run input).outcome =
      ((Validator.looseRecord value key none).run input).outcome := by
  simp only [run_looseRecord]
  cases onError with
  | none => rfl
  | some callback =>
      have onlyTells : OnlyTells (looseRecordOf key.run value.run none input)
          fun callback => looseRecordOf key.run value.run (some callback) input :=
        looseRecordOf_onlyTells input
      obtain ⟨told, _, same⟩ := onlyTells
      exact (same callback fun context _ => returns callback rfl context).1

theorem looseRecord_outcome_eq_error (mapping : input.entries? = some entries)
    (keys : ∀ entry ∈ entries, (key.run entry.1).Answers)
    (values : ∀ entry ∈ entries, (value.run entry.2).Answers) {onError : Option Sink}
    (returns : ∀ callback ∈ onError, ∀ context, (callback context).Answers) (fault : Fault) :
    ((Validator.looseRecord value key onError).run input).outcome = .error fault ↔
      ∃ before entry after, entries = before ++ entry :: after ∧
        Value.CanBeStored [] (acceptedPairs key value before) ∧
        CannotStore key.run value.run (Value.ofPairs (acceptedPairs key value before)) entry
          fault := by
  rw [looseRecord_outcome_of_returns returns]
  simp only [run_looseRecord, looseRecordOf, mapping,
    keepEntries_eq_sortLooseEntries [] [] entries, bind_assoc, pure_bind,
    sortLooseEntries_eq_foldlM]
  rw [Effect.bind_pure_outcome_eq_error, Effect.foldlM_outcome_eq_error]
  constructor
  · rintro ⟨before, entry, after, state, rfl, reached, stopped⟩
    have member : entry ∈ before ++ entry :: after := by simp
    rw [← sortLooseEntries_eq_foldlM] at reached
    obtain ⟨_, storable, rfl⟩ := sortLooseEntries_returned reached
    exact ⟨before, entry, after, rfl, storable,
      (sortLooseEntry_outcome_eq_error (keys entry member) (values entry member)).mp stopped⟩
  · rintro ⟨before, entry, after, rfl, storable, cannotStore⟩
    have member : entry ∈ before ++ entry :: after := by simp
    have reached := congrArg Effect.outcome (sortLooseEntries_eq before
      (fun earlier inside => outcome_eq_verdictOf (keys earlier (List.mem_append_left _ inside)))
      (fun earlier inside _ =>
        outcome_eq_verdictOf (values earlier (List.mem_append_left _ inside))) storable)
    rw [sortLooseEntries_eq_foldlM] at reached
    exact ⟨before, entry, after, _, rfl, reached,
      (sortLooseEntry_outcome_eq_error (keys entry member) (values entry member)).mpr cannotStore⟩

theorem isStorable_of_canBeStored {before after : List (Value × Value)} {entry : Value × Value}
    (storable : Value.CanBeStored [] (acceptedPairs key value (before ++ entry :: after)))
    (accepts : Accepts value.run entry.2) :
    IsStorable key.run (Value.ofPairs (acceptedPairs key value before)) entry.1 := by
  obtain ⟨held, valueAccepted⟩ := accepts
  intro accepted keyAccepted
  have pairEq : entryOutcome (verdictOf key.run) (verdictOf value.run) entry =
      .ok (accepted, held) :=
    entryOutcome_eq_ok_iff.mpr ⟨verdictOf_eq keyAccepted, verdictOf_eq valueAccepted⟩
  rw [acceptedPairs, pairsOf_append, pairsOf_cons, pairEq, Value.canBeStored_append] at storable
  exact storable.2.1

theorem looseRecord_drops_unstorable {before after : List (Value × Value)} {entry : Value × Value}
    (mapping : input.entries? = some (before ++ entry :: after))
    (valueAnswers : (value.run entry.2).Answers)
    (answers : ((Validator.looseRecord value key none).run input).Answers)
    (unstorable :
      ¬ IsStorable key.run (Value.ofPairs (acceptedPairs key value before)) entry.1) :
    ∃ failure told kept, (value.run entry.2).outcome = .ok (.err failure) ∧
      Tells (fun callback => (Validator.looseRecord value key (some callback)).run input) told
        kept ∧
      Contributes failure entry.1 told := by
  obtain ⟨told, kept, tells, contributes⟩ := looseRecord_reports mapping answers
  simp only [run_looseRecord, looseRecordOf, mapping,
    keepEntries_eq_sortLooseEntries [] [] _, bind_assoc, Effect.bind_answers] at answers
  obtain ⟨final, sorted, _⟩ := answers
  obtain ⟨_, storable, _⟩ := sortLooseEntries_returned sorted
  obtain ⟨verdict, valueAnswered⟩ := valueAnswers
  cases verdict with
  | ok accepted => exact (unstorable (isStorable_of_canBeStored storable ⟨_, valueAnswered⟩)).elim
  | err failure =>
      simp only [IsStorable, not_forall] at unstorable
      obtain ⟨accepted, keyAccepted, _⟩ := unstorable
      exact ⟨failure, told, kept, valueAnswered, tells,
        contributes entry (by simp) failure (.inr ⟨⟨accepted, keyAccepted⟩, valueAnswered⟩)⟩

end Mappings

end Validator

/-- A mapping whose parts are answered answers too, unless it comes to an accepted entry whose key
cannot be stored under. A tolerant one stops at the first such entry, a strict one only if no entry
before it was refused. An entry with such a key that stops no run has a refused value, which is
reported. -/
theorem records_stop_only_where_nothing_can_be_stored (key value : Validator) {input : Value}
    {entries : List (Value × Value)} (mapping : input.entries? = some entries)
    (keys : ∀ entry ∈ entries, (key.run entry.1).Answers)
    (values : ∀ entry ∈ entries, (value.run entry.2).Answers) :
    (Value.CanBeStored [] (Validator.acceptedPairs key value entries) →
      ((Validator.record value key).run input).Answers ∧
      ∀ onError : Option Sink, (∀ callback ∈ onError, ∀ context, (callback context).Answers) →
        ((Validator.looseRecord value key onError).run input).Answers) ∧
    (∀ fault, ((Validator.record value key).run input).outcome = .error fault ↔
      ∃ before entry after, entries = before ++ entry :: after ∧
        (∀ earlier ∈ before, Accepts key.run earlier.1 ∧ Accepts value.run earlier.2) ∧
        Value.CanBeStored [] (Validator.acceptedPairs key value before) ∧
        CannotStore key.run value.run (Value.ofPairs (Validator.acceptedPairs key value before))
          entry fault) ∧
    (∀ onError : Option Sink, (∀ callback ∈ onError, ∀ context, (callback context).Answers) →
      ∀ fault, ((Validator.looseRecord value key onError).run input).outcome = .error fault ↔
        ∃ before entry after, entries = before ++ entry :: after ∧
          Value.CanBeStored [] (Validator.acceptedPairs key value before) ∧
          CannotStore key.run value.run (Value.ofPairs (Validator.acceptedPairs key value before))
            entry fault) ∧
    ∀ before entry after, entries = before ++ entry :: after →
      ¬ IsStorable key.run (Value.ofPairs (Validator.acceptedPairs key value before)) entry.1 →
      ¬ Accepts (Validator.record value key).run input ∧
      (((Validator.looseRecord value key none).run input).Answers →
        ∃ failure told kept, (value.run entry.2).outcome = .ok (.err failure) ∧
          Tells (fun callback => (Validator.looseRecord value key (some callback)).run input) told
            kept ∧
          Contributes failure entry.1 told) := by
  refine ⟨?_, Validator.record_outcome_eq_error mapping keys values, fun onError returns =>
    Validator.looseRecord_outcome_eq_error mapping keys values returns, ?_⟩
  · intro storable
    have stores : ∀ before entry after fault, entries = before ++ entry :: after →
        ¬ CannotStore key.run value.run (Value.ofPairs (Validator.acceptedPairs key value before))
          entry fault := by
      rintro before entry after fault rfl ⟨accepted, keyFault, keyAccepted, faulty, accepts, _⟩
      have isStorable := Validator.isStorable_of_canBeStored storable accepts accepted keyAccepted
      cases faulty.symm.trans isStorable
    constructor
    · rw [Effect.answers_iff_forall_ne_error]
      intro fault stopped
      obtain ⟨before, entry, after, split, _, _, cannotStore⟩ :=
        (Validator.record_outcome_eq_error mapping keys values fault).mp stopped
      exact stores before entry after fault split cannotStore
    · intro onError returns
      rw [Effect.answers_iff_forall_ne_error]
      intro fault stopped
      obtain ⟨before, entry, after, split, _, cannotStore⟩ :=
        (Validator.looseRecord_outcome_eq_error mapping keys values returns fault).mp stopped
      exact stores before entry after fault split cannotStore
  · rintro before entry after rfl unstorable
    constructor
    · intro accepted
      obtain ⟨accepts, storable⟩ := (Validator.record_accepts_iff mapping).mp accepted
      exact unstorable (Validator.isStorable_of_canBeStored storable (accepts entry (by simp)).2)
    · intro answers
      exact Validator.looseRecord_drops_unstorable mapping (values entry (by simp)) answers
        unstorable

/-- Lists for keys, the first of them with a value that is refused. -/
theorem records_stop_only_where_nothing_can_be_stored_of_list_keys :
    let key := Validator.format .json
    let value := Validator.integer
    let refused := Value.mapping [(.text "[1]", .text "x"), (.text "2", .int 3)]
    let stopped := Value.mapping [(.text "[1]", .text "x"), (.text "[2]", .int 3)]
    (¬ Accepts (Validator.record value key).run refused ∧
      ∃ told kept, Tells (fun callback =>
          (Validator.looseRecord value key (some callback)).run refused) told kept ∧
        Contributes (.ofIssue (.wrongType "integer" (.text "x"))) (.text "[1]") told) ∧
    ((Validator.record value key).run stopped).Answers ∧
    ((Validator.looseRecord value key none).run stopped).outcome = .error (.unhashable "list") := by
  intro key value refused stopped
  have keyAnswers : ∀ part, (key.run part).Answers := Validator.checkFormat_answers .json
  have valueAnswers : ∀ part, (value.run part).Answers := fun _ => ⟨_, rfl⟩
  have listKey : (key.run (.text "[1]")).outcome = .ok (.ok (.list [.int 1])) := by rfl
  have otherListKey : (key.run (.text "[2]")).outcome = .ok (.ok (.list [.int 2])) := by rfl
  have noText : ¬ Accepts value.run (.text "x") := by
    rintro ⟨_, ⟨⟩⟩
  constructor
  · obtain ⟨returns, _, _, drops⟩ := records_stop_only_where_nothing_can_be_stored key value
      (Value.entries?_mapping [(.text "[1]", .text "x"), (.text "2", .int 3)])
      (fun entry _ => keyAnswers entry.1) (fun entry _ => valueAnswers entry.2)
    have unstorable : ¬ IsStorable key.run [] (.text "[1]") := by
      intro storable
      cases storable _ listKey
    obtain ⟨refuses, drops⟩ :=
      drops [] (.text "[1]", .text "x") [(.text "2", .int 3)] rfl unstorable
    obtain ⟨_, answers⟩ := returns ⟨rfl, trivial⟩
    obtain ⟨failure, told, kept, refusal, tells, contributes⟩ := drops (answers none nofun)
    cases refusal
    exact ⟨refuses, told, kept, tells, contributes⟩
  · obtain ⟨_, strictly, tolerantly, _⟩ := records_stop_only_where_nothing_can_be_stored key value
      (Value.entries?_mapping [(.text "[1]", .text "x"), (.text "[2]", .int 3)])
      (fun entry _ => keyAnswers entry.1) (fun entry _ => valueAnswers entry.2)
    constructor
    · rw [Effect.answers_iff_forall_ne_error]
      intro fault stops
      obtain ⟨before, entry, after, split, accepted, _, cannotStore⟩ := (strictly fault).mp stops
      cases before with
      | nil =>
          cases split
          obtain ⟨_, _, _, _, textAccepted, _⟩ := cannotStore
          exact noText textAccepted
      | cons first rest =>
          obtain ⟨rfl, _⟩ := List.cons_eq_cons.mp split
          exact noText (accepted _ List.mem_cons_self).2
    · exact (tolerantly none nofun _).mpr ⟨[(.text "[1]", .text "x")], (.text "[2]", .int 3), [],
        rfl, trivial, .list [.int 2], .unhashable "list", otherListKey, rfl, ⟨_, rfl⟩, rfl⟩

/-- A list that was read from a JSON text is accepted as a key, but nothing can be stored under
it, whatever the callback does. -/
theorem looseRecord_stops_on_list_key :
    let key := Validator.format .json
    let value := Validator.unknown
    (∀ part, (key.run part).Answers ∧ (value.run part).Answers) ∧
    ∀ onError : Option Sink,
      ((Validator.looseRecord value key onError).run (.mapping [(.text "[1]", .int 1)])).outcome =
        .error (.unhashable "list") := by
  intro key value
  have keyAccepted : (key.run (.text "[1]")).outcome = .ok (.ok (.list [.int 1])) := by rfl
  have valueAccepted : (value.run (.int 1)).outcome = .ok (.ok (.int 1)) := by rfl
  refine ⟨fun part => ⟨Validator.checkFormat_answers .json part, _, rfl⟩, ?_⟩
  intro onError
  cases onError with
  | none =>
      simp only [Validator.run_looseRecord, Validator.looseRecordOf, Value.entries?_mapping,
        Validator.keepEntries, Effect.bind_ok keyAccepted, Effect.bind_ok valueAccepted]
      rfl
  | some callback =>
      simp only [Validator.run_looseRecord, Validator.looseRecordOf, Value.entries?_mapping,
        Validator.sortLooseEntries, Effect.bind_ok keyAccepted, Effect.bind_ok valueAccepted]
      rfl

end TolerantValidation
