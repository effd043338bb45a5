import TolerantValidation.Proofs.Value.Filling
import TolerantValidation.Proofs.Validator.Reported
import TolerantValidation.Proofs.Validator.Telling

/-!
Tolerant mappings, entry by entry: which pairs are stored, which issues are told, and which parts
are run on the way.
-/

namespace TolerantValidation

def Outcome.issues {Accepted : Type} : Outcome Failure Accepted → List Issue
  | .ok _ => []
  | .err failure => failure.issues

/-- What becomes of an entry by the verdicts on its key and its value: the pair to be stored, or the
failure of the key, or else that of the value, as seen from the mapping. -/
def entryOutcome (keyVerdict valueVerdict : Value → Verdict) (entry : Value × Value) :
    Outcome Failure (Value × Value) :=
  match keyVerdict entry.1 with
  | .err failure => .err (failure.below entry.1)
  | .ok key =>
    match valueVerdict entry.2 with
    | .err failure => .err (failure.below entry.1)
    | .ok value => .ok (key, value)

/-- The pairs of validated key and validated value, in the order of the accepted entries. -/
def pairsOf (keyVerdict valueVerdict : Value → Verdict) (entries : List (Value × Value)) :
    List (Value × Value) :=
  entries.flatMap fun entry => (entryOutcome keyVerdict valueVerdict entry).toList

theorem pairsOf_cons {keyVerdict valueVerdict : Value → Verdict} (entry : Value × Value)
    (rest : List (Value × Value)) :
    pairsOf keyVerdict valueVerdict (entry :: rest) =
      (entryOutcome keyVerdict valueVerdict entry).toList ++ pairsOf keyVerdict valueVerdict rest :=
  rfl

theorem pairsOf_append {keyVerdict valueVerdict : Value → Verdict}
    (before after : List (Value × Value)) :
    pairsOf keyVerdict valueVerdict (before ++ after) =
      pairsOf keyVerdict valueVerdict before ++ pairsOf keyVerdict valueVerdict after :=
  List.flatMap_append

def entryEvents (checkKey checkValue : Value → Run Verdict) (keyVerdict : Value → Verdict)
    (entry : Value × Value) : List Event :=
  (checkKey entry.1).events ++
    if (keyVerdict entry.1).isOk then (checkValue entry.2).events else []

namespace Validator

variable {checkKey checkValue : Value → Run Verdict} {keyVerdict valueVerdict : Value → Verdict}

def settle (state : List (Value × Value) × List Issue) :
    Outcome Failure (Value × Value) → List (Value × Value) × List Issue
  | .ok pair => (Value.put pair.1 pair.2 state.1, state.2)
  | .err failure => (state.1, state.2 ++ failure.issues)

theorem sortLooseEntry_eq {entry : Value × Value}
    (keyAnswered : (checkKey entry.1).outcome = .ok (keyVerdict entry.1))
    (valueAnswered : (keyVerdict entry.1).isOk = true →
      (checkValue entry.2).outcome = .ok (valueVerdict entry.2))
    {state : List (Value × Value) × List Issue}
    (storable : Value.CanBeStored state.1 (entryOutcome keyVerdict valueVerdict entry).toList) :
    sortLooseEntry checkKey checkValue state entry =
      ⟨entryEvents checkKey checkValue keyVerdict entry,
        .ok (settle state (entryOutcome keyVerdict valueVerdict entry))⟩ := by
  simp only [sortLooseEntry, Effect.bind_ok keyAnswered, entryEvents, entryOutcome] at storable ⊢
  cases keyEq : keyVerdict entry.1 with
  | err failure => simp [Outcome.isOk, settle, FailureAt.below]
  | ok key =>
      have valueAnswered := valueAnswered (by simp [keyEq, Outcome.isOk])
      simp only [keyEq, Effect.bind_ok valueAnswered, Outcome.isOk, if_true] at storable ⊢
      cases valueEq : valueVerdict entry.2 with
      | err failure => simp [settle, FailureAt.below]
      | ok value =>
          rw [valueEq] at storable
          simp [store_of_noFault storable.1, settle]

theorem settle_fst (state : List (Value × Value) × List Issue)
    (outcome : Outcome Failure (Value × Value)) :
    (settle state outcome).1 =
      outcome.toList.foldl (fun entries pair => Value.put pair.1 pair.2 entries) state.1 := by
  cases outcome <;> rfl

theorem foldl_settle (outcomes : List (Outcome Failure (Value × Value)))
    (state : List (Value × Value) × List Issue) :
    outcomes.foldl settle state =
      ((outcomes.flatMap Outcome.toList).foldl
        (fun entries pair => Value.put pair.1 pair.2 entries) state.1,
        state.2 ++ outcomes.flatMap Outcome.issues) := by
  induction outcomes generalizing state with
  | nil => simp
  | cons outcome rest ih =>
      rw [List.foldl_cons, ih]
      cases outcome <;> simp [settle, Outcome.toList, Outcome.issues]

theorem sortLooseEntries_eq (entries : List (Value × Value))
    (keys : ∀ entry ∈ entries, (checkKey entry.1).outcome = .ok (keyVerdict entry.1))
    (values : ∀ entry ∈ entries, (keyVerdict entry.1).isOk = true →
      (checkValue entry.2).outcome = .ok (valueVerdict entry.2))
    (storable : Value.CanBeStored [] (pairsOf keyVerdict valueVerdict entries)) :
    sortLooseEntries checkKey checkValue [] [] entries =
      ⟨entries.flatMap (entryEvents checkKey checkValue keyVerdict),
        .ok (Value.ofPairs (pairsOf keyVerdict valueVerdict entries),
          entries.flatMap fun entry => (entryOutcome keyVerdict valueVerdict entry).issues)⟩ := by
  have folded : ∀ state : List (Value × Value) × List Issue,
      Value.CanBeStored state.1 (pairsOf keyVerdict valueVerdict entries) →
      entries.foldlM (sortLooseEntry checkKey checkValue) state =
        ⟨entries.flatMap (entryEvents checkKey checkValue keyVerdict),
          .ok ((entries.map (entryOutcome keyVerdict valueVerdict)).foldl settle state)⟩ := by
    clear storable
    induction entries with
    | nil => intro state _; rfl
    | cons entry rest ih =>
        intro state storable
        rw [pairsOf_cons, Value.canBeStored_append, ← settle_fst] at storable
        have restFolded := ih (fun other member => keys other (List.mem_cons_of_mem _ member))
          (fun other member => values other (List.mem_cons_of_mem _ member)) _ storable.2
        rw [List.foldlM_cons, sortLooseEntry_eq (keys entry List.mem_cons_self)
          (values entry List.mem_cons_self) storable.1, Effect.bind_ok rfl, restFolded]
        simp
  rw [sortLooseEntries_eq_foldlM, folded _ storable, foldl_settle, List.flatMap_map,
    List.flatMap_map]
  rfl

theorem looseRecordOf_untold {onError : Option Sink} {input : Value}
    {entries stored : List (Value × Value)} {events : List Event} {issues : List Issue}
    (mapping : input.entries? = some entries)
    (sorted : sortLooseEntries checkKey checkValue [] [] entries = ⟨events, .ok (stored, issues)⟩)
    (quiet : onError = none ∨ issues = []) :
    looseRecordOf checkKey checkValue onError input = ⟨events, .ok (.ok (.mapping stored))⟩ := by
  cases onError with
  | none =>
      simp only [looseRecordOf, mapping, keepEntries_eq_sortLooseEntries [] [] entries, sorted]
      simp
  | some callback =>
      have noIssues : issues = [] := by simpa using quiet
      simp only [looseRecordOf, mapping, sorted, noIssues, tell]
      simp

theorem entryOutcome_reported {entry : Value × Value} {failure : Failure}
    (key : (keyVerdict entry.1).IsReported)
    (value : (keyVerdict entry.1).isOk = true → (valueVerdict entry.2).IsReported)
    (refused : entryOutcome keyVerdict valueVerdict entry = .err failure) :
    failure.issues ≠ [] := by
  unfold entryOutcome at refused
  split at refused
  · rename_i keyFailure keyEq
    cases refused
    simpa [FailureAt.below] using key keyFailure keyEq
  · rename_i accepted keyEq
    split at refused
    · rename_i valueFailure valueEq
      cases refused
      simpa [FailureAt.below] using value (by simp [keyEq, Outcome.isOk]) valueFailure valueEq
    · cases refused

theorem entryOutcome_issues_of_refused {entry : Value × Value} {failure : Failure}
    (refused : keyVerdict entry.1 = .err failure) :
    (entryOutcome keyVerdict valueVerdict entry).issues =
      (keyVerdict entry.1).issuesBelow entry.1 := by
  simp only [entryOutcome, refused]
  rfl

theorem entryOutcome_issues_of_accepted {entry : Value × Value} {key : Value}
    (accepted : keyVerdict entry.1 = .ok key) :
    (entryOutcome keyVerdict valueVerdict entry).issues =
      (valueVerdict entry.2).issuesBelow entry.1 := by
  simp only [entryOutcome, accepted]
  cases valueVerdict entry.2 <;> rfl

def verdictOf (check : Value → Run Verdict) (part : Value) : Verdict :=
  match (check part).outcome with
  | .ok verdict => verdict
  | .error _ => .ok part

theorem verdictOf_eq {check : Value → Run Verdict} {part : Value} {verdict : Verdict}
    (answered : (check part).outcome = .ok verdict) : verdictOf check part = verdict := by
  simp only [verdictOf, answered]

theorem outcome_eq_verdictOf {check : Value → Run Verdict} {part : Value}
    (answers : (check part).Answers) : (check part).outcome = .ok (verdictOf check part) := by
  obtain ⟨verdict, answered⟩ := answers
  rw [verdictOf_eq answered, answered]

theorem sortLooseEntry_returned {state next : List (Value × Value) × List Issue}
    {entry : Value × Value}
    (returned : (sortLooseEntry checkKey checkValue state entry).outcome = .ok next) :
    ((checkKey entry.1).Answers ∧
      ((verdictOf checkKey entry.1).isOk = true → (checkValue entry.2).Answers)) ∧
    Value.CanBeStored state.1
      (entryOutcome (verdictOf checkKey) (verdictOf checkValue) entry).toList ∧
    next = settle state (entryOutcome (verdictOf checkKey) (verdictOf checkValue) entry) := by
  unfold sortLooseEntry at returned
  obtain ⟨key, keyAnswered, returned⟩ := Effect.bind_outcome_eq_ok.mp returned
  have keyEq := verdictOf_eq keyAnswered
  cases key with
  | err failure =>
      cases returned
      simp only [entryOutcome, keyEq]
      exact ⟨⟨⟨_, keyAnswered⟩, nofun⟩, trivial, rfl⟩
  | ok key =>
      obtain ⟨value, valueAnswered, returned⟩ := Effect.bind_outcome_eq_ok.mp returned
      simp only [entryOutcome, keyEq, verdictOf_eq valueAnswered]
      refine ⟨⟨⟨_, keyAnswered⟩, fun _ => ⟨_, valueAnswered⟩⟩, ?_⟩
      cases value with
      | err failure =>
          cases returned
          exact ⟨trivial, rfl⟩
      | ok value =>
          obtain ⟨stored, storing, returned⟩ := Effect.bind_outcome_eq_ok.mp returned
          obtain ⟨noFault, rfl⟩ := store_returned storing
          cases returned
          exact ⟨⟨noFault, trivial⟩, rfl⟩

theorem sortLooseEntries_returned {entries : List (Value × Value)}
    {final : List (Value × Value) × List Issue}
    (returned : (sortLooseEntries checkKey checkValue [] [] entries).outcome = .ok final) :
    (∀ entry ∈ entries, (checkKey entry.1).Answers ∧
      ((verdictOf checkKey entry.1).isOk = true → (checkValue entry.2).Answers)) ∧
    Value.CanBeStored [] (pairsOf (verdictOf checkKey) (verdictOf checkValue) entries) ∧
    final = (Value.ofPairs (pairsOf (verdictOf checkKey) (verdictOf checkValue) entries),
      entries.flatMap fun entry =>
        (entryOutcome (verdictOf checkKey) (verdictOf checkValue) entry).issues) := by
  have folded : ∀ (rest : List (Value × Value)) (state : List (Value × Value) × List Issue),
      (rest.foldlM (sortLooseEntry checkKey checkValue) state).outcome = .ok final →
      (∀ entry ∈ rest, (checkKey entry.1).Answers ∧
        ((verdictOf checkKey entry.1).isOk = true → (checkValue entry.2).Answers)) ∧
      Value.CanBeStored state.1
        (pairsOf (verdictOf checkKey) (verdictOf checkValue) rest) ∧
      final = (rest.map (entryOutcome (verdictOf checkKey) (verdictOf checkValue))).foldl settle
        state := by
    intro rest
    induction rest with
    | nil =>
        intro state returned
        cases returned
        exact ⟨nofun, trivial, rfl⟩
    | cons entry rest ih =>
        intro state returned
        rw [List.foldlM_cons] at returned
        obtain ⟨next, stepped, returned⟩ := Effect.bind_outcome_eq_ok.mp returned
        obtain ⟨answers, storable, rfl⟩ := sortLooseEntry_returned stepped
        obtain ⟨restAnswers, restStorable, finalEq⟩ := ih _ returned
        rw [settle_fst] at restStorable
        exact ⟨List.forall_mem_cons.mpr ⟨answers, restAnswers⟩,
          Value.canBeStored_append.mpr ⟨storable, restStorable⟩, finalEq⟩
  rw [sortLooseEntries_eq_foldlM] at returned
  obtain ⟨answers, storable, finalEq⟩ := folded entries ([], []) returned
  refine ⟨answers, storable, ?_⟩
  rw [finalEq, foldl_settle, List.flatMap_map, List.flatMap_map]
  rfl

end Validator

end TolerantValidation
