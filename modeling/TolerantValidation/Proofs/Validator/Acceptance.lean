import TolerantValidation.Proofs.Validator.Telling
import TolerantValidation.Proofs.Value.Filling

/-!
What validators accept, whatever they were given: leaves and checks hand a value on as it is, and a
collection consists of parts that were accepted, under keys that differ.
-/

namespace TolerantValidation.Validator

/-- The value is what a check made of some value. -/
def IsAccepted (check : Value → Run Verdict) (value : Value) : Prop :=
  ∃ raw, (check raw).outcome = .ok (.ok value)

/-- Validators of single values that neither change nor look into them. -/
inductive IsLeaf : Validator → Prop
  | string {least greatest} : IsLeaf (.string least greatest)
  | integer : IsLeaf .integer
  | number : IsLeaf .number
  | boolean : IsLeaf .boolean
  | unknown : IsLeaf .unknown
  | literal {expected} : IsLeaf (.literal expected)

namespace IsLeaf

variable {validator : Validator}

theorem accepted_eq (leaf : IsLeaf validator) {input result : Value}
    (returned : (validator.run input).outcome = .ok (.ok result)) : result = input := by
  cases leaf with
  | string =>
      simp only [run, checkString] at returned
      split at returned
      · split at returned <;> cases returned
        rfl
      · cases returned
  | integer =>
      simp only [run, checkInteger] at returned
      split at returned <;> cases returned
      rfl
  | number =>
      simp only [run, checkNumber] at returned
      split at returned <;> cases returned <;> rfl
  | boolean =>
      simp only [run, checkBoolean] at returned
      split at returned <;> cases returned
      rfl
  | unknown =>
      cases returned
      rfl
  | literal =>
      simp only [run, checkLiteral] at returned
      split at returned
      · cases returned
      · split at returned
        · cases returned
          rfl
        · obtain ⟨_, _, returned⟩ := Effect.bind_outcome_eq_ok.mp returned
          obtain ⟨_, _, returned⟩ := Effect.bind_outcome_eq_ok.mp returned
          cases returned

theorem eq_part_of_performs (leaf : IsLeaf validator) {input : Value} {action : Action}
    (performs : validator.Performs input action) : action = .part validator input := by
  cases leaf <;> cases performs <;> rfl

end IsLeaf

theorem applyCheck_accepted {check : Value → Run Value} {message : String} {code : IssueCode}
    {fatal : Bool} {value result : Value}
    (returned : (applyCheck check message code fatal value).outcome = .ok (.ok result)) :
    result = value := by
  unfold applyCheck at returned
  obtain ⟨answer, _, returned⟩ := Effect.bind_outcome_eq_ok.mp returned
  split at returned
  · obtain ⟨issue, _, returned⟩ := Effect.bind_outcome_eq_ok.mp returned
    cases returned
  · split at returned
    · cases returned
      rfl
    · cases returned

section Items

variable {check : Value → Run Verdict} {items : List Value}

theorem sortItems_accepted {position : Nat} {accepted : List Value} {issues : List Issue}
    (returned : (sortItems check position items).outcome = .ok (accepted, issues)) :
    ∀ item ∈ accepted, IsAccepted check item := by
  obtain ⟨verdict, answered⟩ :=
    exists_verdicts ((sortItems_answers_iff position items).mp ⟨_, returned⟩)
  rw [sortItems_eq position items answered] at returned
  cases returned
  intro item member
  obtain ⟨raw, inside, kept⟩ := List.mem_flatMap.mp member
  refine ⟨raw, ?_⟩
  rw [answered raw inside]
  cases verdictEq : verdict raw with
  | ok value => simpa [verdictEq, Outcome.toList, eq_comm] using kept
  | err failure => simp [verdictEq, Outcome.toList] at kept

theorem arrayOf_accepted {input result : Value}
    (returned : (arrayOf check input).outcome = .ok (.ok result)) :
    ∃ accepted, result = .list accepted ∧ ∀ item ∈ accepted, IsAccepted check item := by
  unfold arrayOf at returned
  split at returned
  · cases returned
  · obtain ⟨⟨accepted, issues⟩, sorted, returned⟩ := Effect.bind_outcome_eq_ok.mp returned
    cases issues with
    | nil =>
        cases returned
        exact ⟨accepted, rfl, sortItems_accepted sorted⟩
    | cons issue rest => cases returned

theorem looseArrayOf_accepted {onError : Option Sink} {input result : Value}
    (returned : (looseArrayOf check onError input).outcome = .ok (.ok result)) :
    ∃ accepted, result = .list accepted ∧ ∀ item ∈ accepted, IsAccepted check item := by
  unfold looseArrayOf at returned
  split at returned
  · cases returned
  · split at returned
    · rw [keepItems_eq_sortItems check 0] at returned
      obtain ⟨accepted, kept, returned⟩ := Effect.bind_outcome_eq_ok.mp returned
      obtain ⟨⟨_, issues⟩, sorted, kept⟩ := Effect.bind_outcome_eq_ok.mp kept
      cases kept
      cases returned
      exact ⟨_, rfl, sortItems_accepted sorted⟩
    · obtain ⟨⟨accepted, issues⟩, sorted, returned⟩ := Effect.bind_outcome_eq_ok.mp returned
      obtain ⟨_, _, returned⟩ := Effect.bind_outcome_eq_ok.mp returned
      cases returned
      exact ⟨accepted, rfl, sortItems_accepted sorted⟩

end Items

section Entries

variable {checkKey checkValue : Value → Run Verdict} {entries : List (Value × Value)}

/-- Entries as a mapping stores them: under keys that differ, can be keys and were accepted, with
values that were accepted. -/
structure AreStored (checkKey checkValue : Value → Run Verdict) (entries : List (Value × Value)) :
    Prop where
  distinct : Value.HasDistinctKeys entries
  accepted : ∀ entry ∈ entries,
    (entry.1.unhashable? = none ∧ IsAccepted checkKey entry.1) ∧ IsAccepted checkValue entry.2

theorem AreStored.store {key value : Value} (stored : AreStored checkKey checkValue entries)
    (keyAccepted : IsAccepted checkKey key) (valueAccepted : IsAccepted checkValue value)
    {next : List (Value × Value)}
    (returned : (Validator.store key value entries).outcome = .ok next) :
    AreStored checkKey checkValue next := by
  obtain ⟨noFault, rfl⟩ := Validator.store_returned returned
  have hashable := (Value.keyFault?_eq_none_iff.mp noFault).1
  exact ⟨stored.distinct.put key value,
    Value.forall_mem_put (fun key => key.unhashable? = none ∧ IsAccepted checkKey key)
      (IsAccepted checkValue) stored.accepted ⟨hashable, keyAccepted⟩ valueAccepted⟩

theorem sortEntry_areStored (state : List (Value × Value) × List Issue) (entry : Value × Value)
    (next : List (Value × Value) × List Issue)
    (stored : AreStored checkKey checkValue state.1)
    (returned : (sortEntry checkKey checkValue state entry).outcome = .ok next) :
    AreStored checkKey checkValue next.1 := by
  unfold sortEntry at returned
  obtain ⟨key, keyAnswered, returned⟩ := Effect.bind_outcome_eq_ok.mp returned
  obtain ⟨value, valueAnswered, returned⟩ := Effect.bind_outcome_eq_ok.mp returned
  split at returned
  · obtain ⟨entries, storing, returned⟩ := Effect.bind_outcome_eq_ok.mp returned
    cases returned
    split at storing
    · exact stored.store ⟨_, keyAnswered⟩ ⟨_, valueAnswered⟩ storing
    · cases storing
      exact stored
  · cases returned
    exact stored

theorem sortLooseEntry_areStored (state : List (Value × Value) × List Issue)
    (entry : Value × Value) (next : List (Value × Value) × List Issue)
    (stored : AreStored checkKey checkValue state.1)
    (returned : (sortLooseEntry checkKey checkValue state entry).outcome = .ok next) :
    AreStored checkKey checkValue next.1 := by
  unfold sortLooseEntry at returned
  obtain ⟨key, keyAnswered, returned⟩ := Effect.bind_outcome_eq_ok.mp returned
  cases key with
  | err failure =>
      cases returned
      exact stored
  | ok key =>
      obtain ⟨value, valueAnswered, returned⟩ := Effect.bind_outcome_eq_ok.mp returned
      cases value with
      | err failure =>
          cases returned
          exact stored
      | ok value =>
          obtain ⟨entries, storing, returned⟩ := Effect.bind_outcome_eq_ok.mp returned
          cases returned
          exact stored.store ⟨_, keyAnswered⟩ ⟨_, valueAnswered⟩ storing

theorem areStored_nil : AreStored checkKey checkValue [] where
  distinct := List.Pairwise.nil
  accepted := by simp

theorem sortLooseEntries_areStored {final : List (Value × Value) × List Issue}
    (sorted : (sortLooseEntries checkKey checkValue [] [] entries).outcome = .ok final) :
    AreStored checkKey checkValue final.1 := by
  rw [sortLooseEntries_eq_foldlM] at sorted
  exact Effect.foldlM_preserves sortLooseEntry_areStored areStored_nil sorted

theorem recordOf_accepted {input result : Value}
    (returned : (recordOf checkKey checkValue input).outcome = .ok (.ok result)) :
    ∃ stored, result = .mapping stored ∧ AreStored checkKey checkValue stored := by
  unfold recordOf at returned
  split at returned
  · cases returned
  · obtain ⟨⟨stored, issues⟩, sorted, returned⟩ := Effect.bind_outcome_eq_ok.mp returned
    rw [sortEntries_eq_foldlM] at sorted
    have areStored : AreStored checkKey checkValue stored :=
      Effect.foldlM_preserves sortEntry_areStored areStored_nil sorted
    cases issues with
    | nil =>
        cases returned
        exact ⟨stored, rfl, areStored⟩
    | cons issue rest => cases returned

theorem looseRecordOf_accepted {onError : Option Sink} {input result : Value}
    (returned : (looseRecordOf checkKey checkValue onError input).outcome = .ok (.ok result)) :
    ∃ stored, result = .mapping stored ∧ AreStored checkKey checkValue stored := by
  unfold looseRecordOf at returned
  split at returned
  · cases returned
  · split at returned
    · rw [keepEntries_eq_sortLooseEntries [] []] at returned
      obtain ⟨stored, kept, returned⟩ := Effect.bind_outcome_eq_ok.mp returned
      obtain ⟨final, sorted, kept⟩ := Effect.bind_outcome_eq_ok.mp kept
      cases kept
      cases returned
      exact ⟨_, rfl, sortLooseEntries_areStored sorted⟩
    · obtain ⟨final, sorted, returned⟩ := Effect.bind_outcome_eq_ok.mp returned
      obtain ⟨_, _, returned⟩ := Effect.bind_outcome_eq_ok.mp returned
      cases returned
      exact ⟨_, rfl, sortLooseEntries_areStored sorted⟩

end Entries
end TolerantValidation.Validator
