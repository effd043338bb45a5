import TolerantValidation.Proofs.Validator.IssuePaths

/-!
Failures report. Each has an issue, so each part that a tolerant collection drops shows in what its
callback is told, and a strict collection may take a lack of issues for success.
-/

namespace TolerantValidation

def Accepts (check : Value → Run Verdict) (part : Value) : Prop :=
  ∃ accepted, (check part).outcome = .ok (.ok accepted)

/-- An issue of the failure is among those that are told, as one below the segment. -/
def Contributes (failure : Failure) (segment : Value) (told : List FailureContext) : Prop :=
  ∃ context ∈ told, ∃ issue ∈ failure.issues, issue.below segment ∈ context.failure.issues

theorem Verdict.IsReported.issuesBelow_eq_nil_iff {verdict : Verdict}
    (reported : verdict.IsReported) (segment : Value) :
    verdict.issuesBelow segment = [] ↔ ∃ accepted, verdict = .ok accepted := by
  cases verdict with
  | ok accepted => exact ⟨fun _ => ⟨accepted, rfl⟩, fun _ => rfl⟩
  | err failure =>
      have some := reported failure rfl
      simpa [Verdict.issuesBelow] using some

theorem contributes_toldOf {failure : Failure} {segment : Value} {issues : List Issue}
    (reports : failure.issues ≠ [])
    (inside : ∀ issue ∈ failure.issues, issue.below segment ∈ issues) (input : Value) :
    Contributes failure segment (toldOf issues input) := by
  obtain ⟨issue, member⟩ := List.exists_mem_of_ne_nil _ reports
  have told := inside issue member
  have some : issues ≠ [] := List.ne_nil_of_mem told
  refine ⟨⟨{ issues }, input⟩, ?_, issue, member, told⟩
  simp [toldOf, some]

namespace Validator

/-- The pairs of validated key and validated value of those entries that the validators accept. -/
abbrev acceptedPairs (key value : Validator) (entries : List (Value × Value)) :
    List (Value × Value) :=
  pairsOf (verdictOf key.run) (verdictOf value.run) entries

theorem outcome_verdictOf_reported (validator : Validator) {part : Value}
    (answers : (validator.run part).Answers) : (verdictOf validator.run part).IsReported :=
  run_reported validator (outcome_eq_verdictOf answers)

section Items

variable {element : Validator} {input : Value} {items : List Value}

theorem itemIssues_eq_nil_iff {verdict : Value → Verdict}
    (reported : ∀ item ∈ items, (verdict item).IsReported) :
    (items.zipIdx.flatMap fun place => (verdict place.1).issuesBelow (.int place.2)) = [] ↔
      ∀ item ∈ items, ∃ accepted, verdict item = .ok accepted := by
  rw [List.flatMap_eq_nil_iff]
  constructor
  · intro noIssues item member
    obtain ⟨position, found⟩ := List.mem_iff_getElem?.mp member
    have place : (item, position) ∈ items.zipIdx := List.mem_zipIdx_iff_getElem?.mpr found
    exact ((reported item member).issuesBelow_eq_nil_iff _).mp (noIssues _ place)
  · intro accepted place member
    have inside : place.1 ∈ items := List.fst_mem_of_mem_zipIdx member
    exact ((reported place.1 inside).issuesBelow_eq_nil_iff _).mpr (accepted place.1 inside)

theorem array_accepts_iff (sequence : input.sequence? = some items) :
    Accepts (Validator.array element).run input ↔ ∀ item ∈ items, Accepts element.run item := by
  unfold Accepts
  rw [run_array]
  constructor
  · rintro ⟨result, returned⟩
    have answers := (arrayOf_answers_iff sequence).mp ⟨_, returned⟩
    have answered : ∀ item ∈ items, (element.run item).outcome = .ok (verdictOf element.run item) :=
      fun item member => outcome_eq_verdictOf (answers item member)
    simp only [arrayOf, sequence, sortItems_eq 0 items answered] at returned
    obtain ⟨⟨accepted, issues⟩, sorted, returned⟩ := Effect.bind_outcome_eq_ok.mp returned
    have noIssues : issues = [] := by
      by_contra some
      simp only [List.isEmpty_iff, some, if_false] at returned
      cases returned
    cases sorted
    intro item member
    have reported := fun item member => outcome_verdictOf_reported element (answers item member)
    obtain ⟨value, verdictEq⟩ := (itemIssues_eq_nil_iff reported).mp noIssues item member
    exact ⟨value, verdictEq ▸ answered item member⟩
  · intro accepts
    have answers : ∀ item ∈ items, (element.run item).Answers := by
      intro item member
      obtain ⟨value, accepted⟩ := accepts item member
      exact ⟨_, accepted⟩
    have noIssues := (itemIssues_eq_nil_iff fun item member =>
      outcome_verdictOf_reported element (answers item member)).mpr fun item member => by
        obtain ⟨value, accepted⟩ := accepts item member
        exact ⟨value, verdictOf_eq accepted⟩
    refine ⟨.list (items.flatMap fun item => (verdictOf element.run item).toList), ?_⟩
    simp only [arrayOf, sequence, sortItems_eq 0 items fun item member =>
      outcome_eq_verdictOf (answers item member), noIssues]
    rfl

theorem looseArray_reports (sequence : input.sequence? = some items)
    (answers : ((Validator.looseArray element none).run input).Answers) :
    ∃ told kept, Tells (fun callback => (Validator.looseArray element (some callback)).run input)
      told kept ∧
      ∀ (position : Nat) item failure, items[position]? = some item →
        (element.run item).outcome = .ok (.err failure) →
        Contributes failure (.int position) told := by
  simp only [run_looseArray] at answers ⊢
  rw [looseArrayOf_answers_iff sequence] at answers
  have answered : ∀ item ∈ items, (element.run item).outcome = .ok (verdictOf element.run item) :=
    fun item member => outcome_eq_verdictOf (answers item member)
  have sorted := congrArg Effect.outcome (sortItems_eq 0 items answered)
  have tells := tells_of_sorted sorted Value.list input
  simp only [looseArrayOf, sequence]
  refine ⟨_, _, tells, ?_⟩
  intro position item failure found refused
  refine contributes_toldOf (run_reported element refused failure rfl) ?_ input
  intro issue member
  refine List.mem_flatMap.mpr ⟨(item, position), List.mem_zipIdx_iff_getElem?.mpr found, ?_⟩
  rw [verdictOf_eq refused]
  exact List.mem_map_of_mem member

end Items

section Entries

variable {key value : Validator} {input : Value} {entries : List (Value × Value)}

theorem sortEntry_accepted {state next : List (Value × Value) × List Issue} {entry : Value × Value}
    (returned : (sortEntry key.run value.run state entry).outcome = .ok next)
    (noIssues : next.2 = []) :
    (Accepts key.run entry.1 ∧ Accepts value.run entry.2) ∧ state.2 = [] ∧
      Value.CanBeStored state.1
        (entryOutcome (verdictOf key.run) (verdictOf value.run) entry).toList ∧
      next.1 = (entryOutcome (verdictOf key.run) (verdictOf value.run) entry).toList.foldl
        (fun stored pair => Value.put pair.1 pair.2 stored) state.1 := by
  obtain ⟨keyVerdict, valueVerdict, keyAnswered, valueAnswered, added⟩ :=
    sortEntry_returned returned
  rw [noIssues, List.nil_eq, List.append_eq_nil_iff, List.append_eq_nil_iff] at added
  obtain ⟨_, noKeyIssues, noValueIssues⟩ := added
  have keyReported := run_reported key keyAnswered
  have valueReported := run_reported value valueAnswered
  obtain ⟨storedKey, rfl⟩ := (keyReported.issuesBelow_eq_nil_iff entry.1).mp noKeyIssues
  obtain ⟨accepted, rfl⟩ := (valueReported.issuesBelow_eq_nil_iff entry.1).mp noValueIssues
  exact ⟨⟨⟨storedKey, keyAnswered⟩, accepted, valueAnswered⟩,
    sortEntry_unrefused (outcome_eq_verdictOf ⟨_, keyAnswered⟩)
      (outcome_eq_verdictOf ⟨_, valueAnswered⟩) returned noIssues⟩

theorem sortEntries_accepted {state final : List (Value × Value) × List Issue}
    (returned : (entries.foldlM (sortEntry key.run value.run) state).outcome = .ok final)
    (noIssues : final.2 = []) :
    (∀ entry ∈ entries, Accepts key.run entry.1 ∧ Accepts value.run entry.2) ∧ state.2 = [] ∧
      Value.CanBeStored state.1 (acceptedPairs key value entries) ∧
      final.1 = (acceptedPairs key value entries).foldl
        (fun stored pair => Value.put pair.1 pair.2 stored) state.1 := by
  induction entries generalizing state with
  | nil =>
      cases returned
      exact ⟨nofun, noIssues, trivial, rfl⟩
  | cons entry rest ih =>
      rw [List.foldlM_cons] at returned
      obtain ⟨next, stepped, returned⟩ := Effect.bind_outcome_eq_ok.mp returned
      obtain ⟨accepted, stillNone, storable, finalEq⟩ := ih returned
      obtain ⟨firstAccepted, before, firstStorable, nextEq⟩ := sortEntry_accepted stepped stillNone
      rw [nextEq] at storable finalEq
      refine ⟨List.forall_mem_cons.mpr ⟨firstAccepted, accepted⟩, before,
        Value.canBeStored_append.mpr ⟨firstStorable, storable⟩, ?_⟩
      rw [finalEq, ← List.foldl_append]
      rfl

theorem sortEntries_of_accepts
    (accepts : ∀ entry ∈ entries, Accepts key.run entry.1 ∧ Accepts value.run entry.2)
    (storable : Value.CanBeStored [] (acceptedPairs key value entries)) :
    (sortEntries key.run value.run [] [] entries).outcome =
      .ok (Value.ofPairs (acceptedPairs key value entries), []) := by
  have keys : ∀ entry ∈ entries, (key.run entry.1).outcome = .ok (verdictOf key.run entry.1) := by
    intro entry member
    obtain ⟨⟨storedKey, accepted⟩, _⟩ := accepts entry member
    exact outcome_eq_verdictOf ⟨_, accepted⟩
  have values : ∀ entry ∈ entries,
      (value.run entry.2).outcome = .ok (verdictOf value.run entry.2) := by
    intro entry member
    obtain ⟨_, held, accepted⟩ := accepts entry member
    exact outcome_eq_verdictOf ⟨_, accepted⟩
  have pairs : ∀ entry ∈ entries, ∃ pair,
      entryOutcome (verdictOf key.run) (verdictOf value.run) entry = .ok pair := by
    intro entry member
    obtain ⟨⟨storedKey, keyAccepted⟩, held, valueAccepted⟩ := accepts entry member
    exact ⟨(storedKey, held),
      entryOutcome_eq_ok_iff.mpr ⟨verdictOf_eq keyAccepted, verdictOf_eq valueAccepted⟩⟩
  rw [sortEntries_of_accepted keys values pairs storable]
  rfl

theorem record_accepts_iff (mapping : input.entries? = some entries) :
    Accepts (Validator.record value key).run input ↔
      (∀ entry ∈ entries, Accepts key.run entry.1 ∧ Accepts value.run entry.2) ∧
        Value.CanBeStored [] (acceptedPairs key value entries) := by
  unfold Accepts
  rw [run_record]
  simp only [recordOf, mapping]
  constructor
  · rintro ⟨result, returned⟩
    obtain ⟨⟨stored, issues⟩, sorted, returned⟩ := Effect.bind_outcome_eq_ok.mp returned
    have noIssues : issues = [] := by
      by_contra some
      simp only [List.isEmpty_iff, some, if_false] at returned
      cases returned
    rw [sortEntries_eq_foldlM] at sorted
    obtain ⟨accepted, _, storable, _⟩ := sortEntries_accepted sorted noIssues
    exact ⟨accepted, storable⟩
  · rintro ⟨accepts, storable⟩
    exact ⟨_, Effect.bind_outcome_eq_ok.mpr ⟨_, sortEntries_of_accepts accepts storable, rfl⟩⟩

/-- The failure for which a tolerant mapping drops the entry: that of its key, or that of the value
under a key that is accepted. -/
def IsDropped (key value : Validator) (entry : Value × Value) (failure : Failure) : Prop :=
  (key.run entry.1).outcome = .ok (.err failure) ∨
    Accepts key.run entry.1 ∧ (value.run entry.2).outcome = .ok (.err failure)

theorem sortLooseEntries_contributes {stored : List (Value × Value)} {issues : List Issue}
    (sorted : (sortLooseEntries key.run value.run [] [] entries).outcome = .ok (stored, issues))
    (input : Value) : ∀ entry ∈ entries, ∀ failure, IsDropped key value entry failure →
      Contributes failure entry.1 (toldOf issues input) := by
  obtain ⟨_, _, finalEq⟩ := sortLooseEntries_returned sorted
  cases finalEq
  rintro entry inside failure (refused | ⟨⟨accepted, keyAccepted⟩, refused⟩)
  · refine contributes_toldOf (run_reported key refused failure rfl) ?_ input
    intro issue member
    refine List.mem_flatMap.mpr ⟨entry, inside, ?_⟩
    rw [entryOutcome_issues_of_refused (verdictOf_eq refused), verdictOf_eq refused]
    exact List.mem_map_of_mem member
  · refine contributes_toldOf (run_reported value refused failure rfl) ?_ input
    intro issue member
    refine List.mem_flatMap.mpr ⟨entry, inside, ?_⟩
    rw [entryOutcome_issues_of_accepted (verdictOf_eq keyAccepted), verdictOf_eq refused]
    exact List.mem_map_of_mem member

theorem looseRecord_reports (mapping : input.entries? = some entries)
    (answers : ((Validator.looseRecord value key none).run input).Answers) :
    ∃ told kept, Tells (fun callback =>
        (Validator.looseRecord value key (some callback)).run input) told kept ∧
      ∀ entry ∈ entries, ∀ failure, IsDropped key value entry failure →
        Contributes failure entry.1 told := by
  simp only [run_looseRecord, looseRecordOf, mapping] at answers ⊢
  rw [keepEntries_eq_sortLooseEntries [] [] entries, bind_assoc, Effect.bind_answers] at answers
  obtain ⟨⟨stored, issues⟩, sorted, _⟩ := answers
  exact ⟨_, _, tells_of_sorted sorted Value.mapping input,
    sortLooseEntries_contributes sorted input⟩

end Entries

end Validator

/-- A run that fails has an issue, whatever the validator and the input. So a tolerant collection
that answers tells its callback of each part that it drops, and a strict collection answers with
success exactly when each part is accepted, if only its pairs can be stored one after the other. -/
theorem failures_report (element key : Validator) (input : Value) :
    (∀ failure, (element.run input).outcome = .ok (.err failure) → failure.issues ≠ []) ∧
    (∀ items, input.sequence? = some items →
      (Accepts (Validator.array element).run input ↔ ∀ item ∈ items, Accepts element.run item) ∧
      (((Validator.looseArray element none).run input).Answers →
        ∃ told kept, Tells (fun callback =>
            (Validator.looseArray element (some callback)).run input) told kept ∧
          ∀ (position : Nat) item failure, items[position]? = some item →
            (element.run item).outcome = .ok (.err failure) →
            Contributes failure (.int position) told)) ∧
    ∀ entries, input.entries? = some entries →
      (Accepts (Validator.record element key).run input ↔
        (∀ entry ∈ entries, Accepts key.run entry.1 ∧ Accepts element.run entry.2) ∧
          Value.CanBeStored [] (Validator.acceptedPairs key element entries)) ∧
      (((Validator.looseRecord element key none).run input).Answers →
        ∃ told kept, Tells (fun callback =>
            (Validator.looseRecord element key (some callback)).run input) told kept ∧
          ∀ entry ∈ entries, ∀ failure, Validator.IsDropped key element entry failure →
            Contributes failure entry.1 told) := by
  refine ⟨?_, ?_, ?_⟩
  · intro failure returned
    exact Validator.run_reported element returned failure rfl
  · intro items sequence
    exact ⟨Validator.array_accepts_iff sequence, Validator.looseArray_reports sequence⟩
  · intro entries mapping
    exact ⟨Validator.record_accepts_iff mapping, Validator.looseRecord_reports mapping⟩

theorem failures_report_of_dropped_parts :
    let row := Value.list [.int 1, .text "x", .int 2]
    let table := Value.mapping [(.text "a", .int 1), (.int 5, .int 2), (.text "b", .null)]
    ¬ Accepts (Validator.array .integer).run row ∧
    (∃ told kept, Tells (fun callback =>
        (Validator.looseArray .integer (some callback)).run row) told kept ∧
      Contributes (.ofIssue (.wrongType "integer" (.text "x"))) (.int 1) told) ∧
    ¬ Accepts (Validator.record .integer (.string none none)).run table ∧
    ∃ told kept, Tells (fun callback =>
        (Validator.looseRecord .integer (.string none none) (some callback)).run table) told kept ∧
      Contributes (.ofIssue (.wrongType "string" (.int 5))) (.int 5) told ∧
      Contributes (.ofIssue (.wrongType "integer" .null)) (.text "b") told := by
  intro row table
  obtain ⟨_, ofItems, _⟩ := failures_report .integer .unknown row
  obtain ⟨allItems, told⟩ := ofItems _ (Value.sequence?_collection_list _)
  obtain ⟨_, _, ofEntries⟩ := failures_report .integer (.string none none) table
  obtain ⟨allEntries, toldOfEntries⟩ := ofEntries _ (Value.entries?_mapping _)
  refine ⟨?_, ?_, ?_, ?_⟩
  · intro accepted
    obtain ⟨_, ⟨⟩⟩ := allItems.mp accepted (.text "x") (by simp)
  · obtain ⟨told, kept, tells, contributes⟩ := told ⟨_, rfl⟩
    exact ⟨told, kept, tells, contributes 1 _ _ rfl rfl⟩
  · intro accepted
    obtain ⟨_, ⟨⟩⟩ := ((allEntries.mp accepted).1 (.int 5, .int 2) (by simp)).1
  · obtain ⟨told, kept, tells, contributes⟩ := toldOfEntries ⟨_, rfl⟩
    exact ⟨told, kept, tells, contributes (.int 5, .int 2) (by simp) _ (.inl rfl),
      contributes (.text "b", .null) (by simp) _ (.inr ⟨⟨_, rfl⟩, rfl⟩)⟩

/-- A list that was read from a JSON text is accepted as a key, but nothing can be stored under
it. -/
theorem record_stops_on_list_key :
    let key := Validator.format .json
    let value := Validator.unknown
    Accepts key.run (.text "[1]") ∧ Accepts value.run (.int 1) ∧
    ((Validator.record value key).run (.mapping [(.text "[1]", .int 1)])).outcome =
      .error (.unhashable "list") := by
  intro key value
  have keyAccepted : (key.run (.text "[1]")).outcome = .ok (.ok (.list [.int 1])) := by rfl
  have valueAccepted : (value.run (.int 1)).outcome = .ok (.ok (.int 1)) := by rfl
  refine ⟨⟨_, keyAccepted⟩, ⟨_, valueAccepted⟩, ?_⟩
  simp only [Validator.run_record, Validator.recordOf, Value.entries?_mapping,
    Validator.sortEntries, Effect.bind_ok keyAccepted, Effect.bind_ok valueAccepted]
  rfl

end TolerantValidation
