import TolerantValidation.Proofs.Validator.Action

/-!
Telling a callback changes nothing else. The tolerant collections have one loop for runs without a
callback and another one that gathers issues; both get to the same parts in the same order, and
whatever stops one of them stops the other.
-/

namespace TolerantValidation

/-- With a callback that returns, the run answers or stops as the plain run does, after the same
events, and the callback may be told one thing at the end, which depends on no callback. -/
def OnlyTells (plain : Run Verdict) (telling : Sink → Run Verdict) : Prop :=
  ∃ told : List FailureContext, told.length ≤ 1 ∧
    ∀ callback : Sink, (∀ context ∈ told, (callback context).Answers) →
      (telling callback).outcome = plain.outcome ∧
      (telling callback).events =
        plain.events ++ told.flatMap fun context => (callback context).events

namespace Validator

variable {checkKey checkValue : Value → Run Verdict}

theorem keepItems_eq_sortItems (check : Value → Run Verdict) (position : Nat) (items : List Value) :
    keepItems check items = sortItems check position items >>= fun sorted => pure sorted.1 := by
  induction items generalizing position with
  | nil => rfl
  | cons item rest ih =>
      simp only [keepItems, sortItems, ih (position + 1), bind_assoc, pure_bind]
      congr; funext verdict
      congr; funext sorted
      cases verdict <;> rfl

theorem keepEntry_eq_sortLooseEntry (state : List (Value × Value) × List Issue)
    (entry : Value × Value) :
    keepEntry checkKey checkValue state.1 entry =
      sortLooseEntry checkKey checkValue state entry >>= fun next => pure next.1 := by
  simp only [keepEntry, sortLooseEntry, bind_assoc]
  congr; funext key
  cases key with
  | err failure => rfl
  | ok key =>
      simp only [bind_assoc]
      congr; funext value
      cases value with
      | err failure => rfl
      | ok value => simp only [bind_assoc, pure_bind, bind_pure]

theorem keepEntries_eq_sortLooseEntries (stored : List (Value × Value)) (issues : List Issue)
    (entries : List (Value × Value)) :
    keepEntries checkKey checkValue stored entries =
      sortLooseEntries checkKey checkValue stored issues entries >>= fun sorted =>
        pure sorted.1 := by
  rw [keepEntries_eq_foldlM, sortLooseEntries_eq_foldlM]
  show entries.foldlM _ (stored, issues).1 = _
  generalize (stored, issues) = state
  induction entries generalizing state with
  | nil => rfl
  | cons entry rest ih =>
      simp only [List.foldlM_cons, keepEntry_eq_sortLooseEntry, bind_assoc, pure_bind, ih]

theorem tell_of_ne_nil {issues : List Issue} (reports : issues ≠ []) (callback : Sink)
    (input : Value) :
    tell callback issues input = callback ⟨{ issues }, input⟩ >>= fun _ => pure () := by
  simp only [tell, List.isEmpty_iff, reports, if_false]

theorem onlyTells_of_sorted {State : Type} (sorted : Run (State × List Issue))
    (answer : State → Verdict) (input : Value) :
    OnlyTells (sorted >>= fun final => pure (answer final.1))
      (fun callback => sorted >>= fun final => do
        tell callback final.2 input
        pure (answer final.1)) := by
  cases outcome : sorted.outcome with
  | error fault =>
      refine ⟨[], by simp, ?_⟩
      intro callback _
      simp [Effect.bind_error outcome]
  | ok final =>
      by_cases noIssues : final.2 = []
      · refine ⟨[], by simp, ?_⟩
        intro callback _
        simp [Effect.bind_ok outcome, tell, noIssues]
      · refine ⟨[⟨{ issues := final.2 }, input⟩], by simp, ?_⟩
        intro callback returns
        obtain ⟨ignored, returned⟩ := returns _ List.mem_cons_self
        simp only [Effect.bind_ok outcome, tell_of_ne_nil noIssues, Effect.bind_ok returned]
        simp

theorem looseArrayOf_onlyTells (check : Value → Run Verdict) (input : Value) :
    OnlyTells (looseArrayOf check none input)
      fun callback => looseArrayOf check (some callback) input := by
  unfold looseArrayOf
  cases input.sequence? with
  | none => exact ⟨[], by simp, by simp⟩
  | some items =>
      simp only [keepItems_eq_sortItems check 0 items, bind_assoc, pure_bind]
      exact onlyTells_of_sorted _ (fun accepted => .ok (.list accepted)) input

theorem looseRecordOf_onlyTells (input : Value) :
    OnlyTells (looseRecordOf checkKey checkValue none input)
      fun callback => looseRecordOf checkKey checkValue (some callback) input := by
  unfold looseRecordOf
  cases input.entries? with
  | none => exact ⟨[], by simp, by simp⟩
  | some entries =>
      simp only [keepEntries_eq_sortLooseEntries [] [] entries, bind_assoc, pure_bind]
      exact onlyTells_of_sorted _ (fun stored => .ok (.mapping stored)) input

end Validator

/-- A callback that returns changes neither the outcome of a tolerant collection nor what happens
before it is told. -/
theorem loose_collections_only_tell (element key value : Validator) (input : Value) :
    OnlyTells ((Validator.looseArray element none).run input)
        (fun callback => (Validator.looseArray element (some callback)).run input) ∧
      OnlyTells ((Validator.looseRecord value key none).run input)
        (fun callback => (Validator.looseRecord value key (some callback)).run input) := by
  simp only [Validator.run_looseArray, Validator.run_looseRecord]
  exact ⟨Validator.looseArrayOf_onlyTells element.run input,
    Validator.looseRecordOf_onlyTells input⟩

end TolerantValidation
