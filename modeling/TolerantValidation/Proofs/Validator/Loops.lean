import TolerantValidation.Validator.Run
import TolerantValidation.Proofs.Effect

/-!
The loops of collection validators, one part at a time: every loop over entries is a fold of one
step, and the loop over items answers with what became of each item.
-/

namespace TolerantValidation

def Verdict.issuesBelow (segment : Value) : Verdict → List Issue
  | .ok _ => []
  | .err failure => failure.issues.map (IssueAt.below segment)

theorem Effect.foldlM_preserves {Stop State Item : Type} {step : State → Item → Effect Stop State}
    {Holds : State → Prop} (advances : ∀ state item next, Holds state →
      (step state item).outcome = .ok next → Holds next)
    {start final : State} {items : List Item} (holds : Holds start)
    (returned : (items.foldlM step start).outcome = .ok final) : Holds final := by
  induction items generalizing start with
  | nil =>
      cases returned
      exact holds
  | cons item rest ih =>
      rw [List.foldlM_cons] at returned
      obtain ⟨next, stepped, returned⟩ := bind_outcome_eq_ok.mp returned
      exact ih (advances start item next holds stepped) returned

theorem Effect.foldlM_outcome_eq_error {Stop State Item : Type}
    {step : State → Item → Effect Stop State} {start : State} {items : List Item} {fault : Stop} :
    (items.foldlM step start).outcome = .error fault ↔
      ∃ before item after state, items = before ++ item :: after ∧
        (before.foldlM step start).outcome = .ok state ∧
        (step state item).outcome = .error fault := by
  induction items generalizing start with
  | nil =>
      constructor
      · rintro ⟨⟩
      · rintro ⟨before, item, after, state, split, _⟩
        simp at split
  | cons first rest ih =>
      rw [List.foldlM_cons, bind_outcome_eq_error]
      constructor
      · rintro (stopped | ⟨next, stepped, stopped⟩)
        · exact ⟨[], first, rest, start, rfl, rfl, stopped⟩
        · obtain ⟨before, item, after, state, rfl, reached, stops⟩ := ih.mp stopped
          refine ⟨first :: before, item, after, state, rfl, ?_, stops⟩
          rw [List.foldlM_cons]
          exact bind_outcome_eq_ok.mpr ⟨next, stepped, reached⟩
      · rintro ⟨before, item, after, state, split, reached, stops⟩
        cases before with
        | nil =>
            cases split
            cases reached
            exact .inl stops
        | cons earlier before =>
            cases split
            rw [List.foldlM_cons] at reached
            obtain ⟨next, stepped, reached⟩ := bind_outcome_eq_ok.mp reached
            exact .inr ⟨next, stepped, ih.mpr ⟨before, item, after, state, rfl, reached, stops⟩⟩

namespace Validator

variable {checkKey checkValue : Value → Run Verdict}

def sortEntry (checkKey checkValue : Value → Run Verdict)
    (state : List (Value × Value) × List Issue) (entry : Value × Value) :
    Run (List (Value × Value) × List Issue) := do
  let key ← checkKey entry.1
  let value ← checkValue entry.2
  match key, value with
  | .ok key, .ok value =>
    let stored ← (if state.2.isEmpty then store key value state.1 else pure state.1)
    pure (stored, state.2)
  | key, value =>
    pure (state.1, state.2 ++ (key.issuesBelow entry.1 ++ value.issuesBelow entry.1))

def sortLooseEntry (checkKey checkValue : Value → Run Verdict)
    (state : List (Value × Value) × List Issue) (entry : Value × Value) :
    Run (List (Value × Value) × List Issue) := do
  match ← checkKey entry.1 with
  | .err failure => pure (state.1, state.2 ++ failure.issues.map (IssueAt.below entry.1))
  | .ok key =>
    match ← checkValue entry.2 with
    | .err failure => pure (state.1, state.2 ++ failure.issues.map (IssueAt.below entry.1))
    | .ok value => do pure (← store key value state.1, state.2)

def keepEntry (checkKey checkValue : Value → Run Verdict) (stored : List (Value × Value))
    (entry : Value × Value) : Run (List (Value × Value)) := do
  match ← checkKey entry.1 with
  | .err _ => pure stored
  | .ok key =>
    match ← checkValue entry.2 with
    | .err _ => pure stored
    | .ok value => store key value stored

theorem store_of_noFault {key : Value} {entries : List (Value × Value)}
    (noFault : key.keyFault? entries = none) (value : Value) :
    store key value entries = pure (Value.put key value entries) := by
  simp only [store, noFault]

theorem store_returned {key value : Value} {entries stored : List (Value × Value)}
    (returned : (store key value entries).outcome = .ok stored) :
    key.keyFault? entries = none ∧ stored = Value.put key value entries := by
  unfold store at returned
  split at returned
  · cases returned
  · rename_i noFault
    cases returned
    exact ⟨noFault, rfl⟩

theorem sortEntries_eq_foldlM (stored : List (Value × Value)) (issues : List Issue)
    (entries : List (Value × Value)) :
    sortEntries checkKey checkValue stored issues entries =
      entries.foldlM (sortEntry checkKey checkValue) (stored, issues) := by
  induction entries generalizing stored issues with
  | nil => rfl
  | cons entry rest ih =>
      simp only [sortEntries, List.foldlM_cons, sortEntry, bind_assoc]
      congr; funext key
      congr; funext value
      cases key with
      | err failure => cases value <;> simp [ih, Verdict.issuesBelow]
      | ok key =>
          cases value with
          | err failure => simp [ih, Verdict.issuesBelow]
          | ok value => by_cases noIssues : issues.isEmpty <;> simp only [noIssues, ih] <;> simp

theorem sortLooseEntries_eq_foldlM (stored : List (Value × Value)) (issues : List Issue)
    (entries : List (Value × Value)) :
    sortLooseEntries checkKey checkValue stored issues entries =
      entries.foldlM (sortLooseEntry checkKey checkValue) (stored, issues) := by
  induction entries generalizing stored issues with
  | nil => rfl
  | cons entry rest ih =>
      simp only [sortLooseEntries, List.foldlM_cons, sortLooseEntry, bind_assoc]
      congr; funext key
      cases key with
      | err failure => simp [ih]
      | ok key =>
          simp only [bind_assoc]
          congr; funext value
          cases value <;> simp [ih]

theorem keepEntries_eq_foldlM (stored : List (Value × Value)) (entries : List (Value × Value)) :
    keepEntries checkKey checkValue stored entries =
      entries.foldlM (keepEntry checkKey checkValue) stored := by
  induction entries generalizing stored with
  | nil => rfl
  | cons entry rest ih =>
      simp only [keepEntries, List.foldlM_cons, keepEntry, bind_assoc]
      congr; funext key
      cases key with
      | err failure => simp [ih]
      | ok key =>
          simp only [bind_assoc]
          congr; funext value
          cases value <;> simp [ih]

theorem exists_verdicts {check : Value → Run Verdict} {parts : List Value}
    (answers : ∀ part ∈ parts, (check part).Answers) :
    ∃ verdict : Value → Verdict, ∀ part ∈ parts, (check part).outcome = .ok (verdict part) := by
  refine ⟨fun part => match (check part).outcome with
    | .ok verdict => verdict
    | .error _ => .ok part, ?_⟩
  intro part member
  obtain ⟨verdict, answered⟩ := answers part member
  simp only [answered]

theorem sortItems_answers_iff {check : Value → Run Verdict} (position : Nat) (items : List Value) :
    (sortItems check position items).Answers ↔ ∀ item ∈ items, (check item).Answers := by
  induction items generalizing position with
  | nil => simp [sortItems, Effect.pure_answers]
  | cons item rest ih =>
      simp only [sortItems, List.mem_cons, forall_eq_or_imp, ← ih (position + 1)]
      rw [Effect.bind_answers]
      constructor
      · rintro ⟨verdict, answered, answers⟩
        obtain ⟨sorted, restAnswered, _⟩ := Effect.bind_answers.mp answers
        exact ⟨⟨verdict, answered⟩, sorted, restAnswered⟩
      · rintro ⟨⟨verdict, answered⟩, sorted, restAnswered⟩
        refine ⟨verdict, answered, Effect.bind_answers.mpr ⟨sorted, restAnswered, ?_⟩⟩
        cases verdict <;> exact Effect.pure_answers _

theorem sortItems_eq {check : Value → Run Verdict} {verdict : Value → Verdict} (position : Nat)
    (items : List Value)
    (answered : ∀ item ∈ items, (check item).outcome = .ok (verdict item)) :
    sortItems check position items =
      ⟨items.flatMap fun item => (check item).events,
        .ok (items.flatMap fun item => (verdict item).toList,
          (items.zipIdx position).flatMap fun place =>
            (verdict place.1).issuesBelow (.int place.2))⟩ := by
  induction items generalizing position with
  | nil => rfl
  | cons item rest ih =>
      have restEq := ih (position + 1) fun other member =>
        answered other (List.mem_cons_of_mem _ member)
      have itemAnswered := answered item List.mem_cons_self
      simp only [sortItems, restEq, Effect.bind_ok itemAnswered, List.zipIdx_cons,
        List.flatMap_cons]
      cases verdict item with
      | ok value =>
          apply Effect.eq_of_events_outcome
          · simp
          · simp [Outcome.toList, Verdict.issuesBelow]
      | err failure =>
          apply Effect.eq_of_events_outcome
          · simp
          · simp [Outcome.toList, Verdict.issuesBelow]

theorem sortEntry_returned {state next : List (Value × Value) × List Issue} {entry : Value × Value}
    (returned : (sortEntry checkKey checkValue state entry).outcome = .ok next) :
    ∃ key value, (checkKey entry.1).outcome = .ok key ∧ (checkValue entry.2).outcome = .ok value ∧
      next.2 = state.2 ++ (key.issuesBelow entry.1 ++ value.issuesBelow entry.1) := by
  unfold sortEntry at returned
  obtain ⟨key, keyAnswered, returned⟩ := Effect.bind_outcome_eq_ok.mp returned
  obtain ⟨value, valueAnswered, returned⟩ := Effect.bind_outcome_eq_ok.mp returned
  refine ⟨key, value, keyAnswered, valueAnswered, ?_⟩
  split at returned
  · obtain ⟨stored, _, final⟩ := Effect.bind_outcome_eq_ok.mp returned
    cases final
    simp [Verdict.issuesBelow]
  · cases returned
    rfl

theorem sortEntries_answered {stored : List (Value × Value)} {issues : List Issue}
    {entries : List (Value × Value)} {final : List (Value × Value) × List Issue}
    (returned : (sortEntries checkKey checkValue stored issues entries).outcome = .ok final) :
    ∀ entry ∈ entries, (checkKey entry.1).Answers ∧ (checkValue entry.2).Answers := by
  rw [sortEntries_eq_foldlM] at returned
  generalize (stored, issues) = state at returned
  induction entries generalizing state with
  | nil => simp
  | cons entry rest ih =>
      rw [List.foldlM_cons] at returned
      obtain ⟨next, stepped, returned⟩ := Effect.bind_outcome_eq_ok.mp returned
      obtain ⟨key, value, keyAnswered, valueAnswered, _⟩ := sortEntry_returned stepped
      intro other member
      rcases List.mem_cons.mp member with rfl | later
      · exact ⟨⟨key, keyAnswered⟩, value, valueAnswered⟩
      · exact ih next returned other later

theorem sortEntries_issues {keyVerdict valueVerdict : Value → Verdict}
    {stored : List (Value × Value)} {issues : List Issue} {entries : List (Value × Value)}
    {final : List (Value × Value) × List Issue}
    (returned : (sortEntries checkKey checkValue stored issues entries).outcome = .ok final)
    (keys : ∀ entry ∈ entries, (checkKey entry.1).outcome = .ok (keyVerdict entry.1))
    (values : ∀ entry ∈ entries, (checkValue entry.2).outcome = .ok (valueVerdict entry.2)) :
    final.2 = issues ++ entries.flatMap fun entry =>
      (keyVerdict entry.1).issuesBelow entry.1 ++ (valueVerdict entry.2).issuesBelow entry.1 := by
  rw [sortEntries_eq_foldlM] at returned
  generalize stateEq : (stored, issues) = state at returned
  have issuesEq : issues = state.2 := by rw [← stateEq]
  rw [issuesEq]
  clear stateEq issuesEq
  induction entries generalizing state with
  | nil => cases returned; simp
  | cons entry rest ih =>
      rw [List.foldlM_cons] at returned
      obtain ⟨next, stepped, returned⟩ := Effect.bind_outcome_eq_ok.mp returned
      obtain ⟨key, value, keyAnswered, valueAnswered, added⟩ := sortEntry_returned stepped
      have sameKey : key = keyVerdict entry.1 :=
        Except.ok.inj (keyAnswered.symm.trans (keys entry List.mem_cons_self))
      have sameValue : value = valueVerdict entry.2 :=
        Except.ok.inj (valueAnswered.symm.trans (values entry List.mem_cons_self))
      rw [ih (fun other member => keys other (List.mem_cons_of_mem _ member))
        (fun other member => values other (List.mem_cons_of_mem _ member)) next returned, added,
        sameKey, sameValue]
      simp [List.append_assoc]

end Validator
end TolerantValidation
