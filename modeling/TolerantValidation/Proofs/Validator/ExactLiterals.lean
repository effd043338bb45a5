import TolerantValidation.Proofs.Validator.Literals
import TolerantValidation.Proofs.Value.Agreement

/-!
Which values a literal accepts: those that agree with the expected one and have its type. Below the
root the type does not count, so a list of one does for a list of true.
-/

namespace TolerantValidation

open Value (Agrees TypesAgree comparisonLimit)

namespace Validator

theorem checkLiteral_accepts_iff {expected value : Value} {equal : Bool}
    (compared : value.equal? expected = some equal) :
    checkLiteral expected value = pure (.ok value) ↔
      equal = true ∧ value.typeName = expected.typeName := by
  have sameType : value.typeName = expected.typeName ↔ value.sameType expected = true := by
    simp [Value.sameType]
  rw [sameType, ← Bool.and_eq_true]
  simp only [checkLiteral, compared]
  cases equal && value.sameType expected with
  | true => exact iff_of_true rfl rfl
  | false =>
      refine iff_of_false (fun accepted => ?_) (by decide)
      have returned := congrArg Effect.outcome accepted
      obtain ⟨wanted, _, returned⟩ := Effect.bind_outcome_eq_ok.mp returned
      obtain ⟨given, _, returned⟩ := Effect.bind_outcome_eq_ok.mp returned
      cases returned

theorem checkLiteral_of_refused {expected value : Value} {equal : Bool}
    (compared : value.equal? expected = some equal)
    (refused : checkLiteral expected value ≠ pure (.ok value)) {wanted given : String}
    (wantedShown : expected.notationText = .ok wanted)
    (givenShown : value.notationText = .ok given) :
    checkLiteral expected value = pure (.refuse
      { code := .invalidValue, message := "Expected " ++ wanted ++ ", got " ++ given }) := by
  simp only [checkLiteral, compared] at refused ⊢
  split
  · rename_i same
    simp [same] at refused
  · rw [wantedShown, givenShown]
    rfl

theorem checkLiteral_refused_answers_iff {expected value : Value} {equal : Bool}
    (compared : value.equal? expected = some equal)
    (refused : checkLiteral expected value ≠ pure (.ok value)) :
    (checkLiteral expected value).Answers ↔
      IsWritten expected.notationText ∧ IsWritten value.notationText := by
  rw [Ne, checkLiteral_accepts_iff compared] at refused
  have differs : (equal && value.sameType expected) = false := by
    simpa [Value.sameType] using refused
  rw [checkLiteral_answers_iff]
  constructor
  · rintro ⟨answer, answered, writes⟩
    cases compared.symm.trans answered
    exact writes differs
  · exact fun written => ⟨equal, compared, fun _ => written⟩

theorem literal_accepts_iff {expected value : Value} (expectedData : expected.IsData)
    (valueData : value.IsData)
    (nests : expected.EndsAfter comparisonLimit ∨ value.EndsAfter comparisonLimit) :
    (Validator.literal expected).run value = pure (.ok value) ↔
      Agrees false value expected ∧ value.typeName = expected.typeName := by
  obtain ⟨equal, compared⟩ := Option.isSome_iff_exists.mp
    (Value.equalWithin_isSome comparisonLimit value expected nests.symm)
  rw [← Value.equalWithin_tells comparisonLimit valueData expectedData equal compared]
  exact checkLiteral_accepts_iff compared

end Validator

/-- A literal accepts the values that agree with the expected one and have its type, the expected
one and all that agree with it in every type among them. Where no parts of the two agree without
being of the same type, it accepts no others. It answers anything else with one issue that shows
both values, if both can be written. -/
theorem literal_accepts_agreeing {expected value : Value} (expectedData : expected.IsData)
    (valueData : value.IsData)
    (nests : expected.EndsAfter comparisonLimit ∨ value.EndsAfter comparisonLimit) :
    let run := (Validator.literal expected).run value
    (run = pure (.ok value) ↔
      Agrees false value expected ∧ value.typeName = expected.typeName) ∧
    (expected.EndsAfter comparisonLimit →
      (Validator.literal expected).run expected = pure (.ok expected)) ∧
    (Agrees true value expected → run = pure (.ok value)) ∧
    ((∀ part ∈ value.parts, ∀ other ∈ expected.parts, TypesAgree part other) →
      (run = pure (.ok value) ↔ Agrees true value expected)) ∧
    (run ≠ pure (.ok value) →
      (∀ wanted given, expected.notationText = .ok wanted → value.notationText = .ok given →
        run = pure (.refuse
          { code := .invalidValue, message := "Expected " ++ wanted ++ ", got " ++ given })) ∧
      (run.Answers ↔ IsWritten expected.notationText ∧ IsWritten value.notationText)) := by
  intro run
  have accepts := Validator.literal_accepts_iff expectedData valueData nests
  have agreeing (agrees : Agrees true value expected) : run = pure (.ok value) :=
    accepts.mpr ⟨agrees.loosen, agrees.typeName_eq rfl⟩
  obtain ⟨equal, compared⟩ := Option.isSome_iff_exists.mp
    (Value.equalWithin_isSome comparisonLimit value expected nests.symm)
  refine ⟨accepts, ?_, agreeing, ?_, fun refused => ⟨?_, ?_⟩⟩
  · intro ends
    exact (Validator.literal_accepts_iff expectedData expectedData (.inl ends)).mpr
      ⟨expectedData.agrees_self ends false, rfl⟩
  · intro types
    refine ⟨fun accepted => ?_, agreeing⟩
    obtain ⟨agrees, sameType⟩ := accepts.mp accepted
    exact agrees.tighten sameType types
  · intro wanted given wantedShown givenShown
    exact Validator.checkLiteral_of_refused compared refused wantedShown givenShown
  · exact Validator.checkLiteral_refused_answers_iff compared refused

/-- A list with the items of its set in another order is accepted, and a tuple in place of the list
is not. -/
theorem literal_accepts_agreeing_of_nested_set :
    let expected := Value.list [.bool true, .collection .set [.null, .bool false]]
    let reordered := Value.list [.bool true, .collection .set [.bool false, .null]]
    let given := Value.tuple [.bool true]
    (Validator.literal expected).run reordered = pure (.ok reordered) ∧
    (Validator.literal expected).run given = pure (.refuse
      { code := .invalidValue
        message := "Expected [True, \x7bNone, False\x7d], got (True,)" }) := by
  intro expected reordered given
  have flag (flag : Bool) : (Value.bool flag).IsData := Value.isData_of_scalar rfl
  have nothing : Value.null.IsData := Value.isData_of_scalar rfl
  have different : ¬ Agrees false .null (.bool false) := fun agrees => by
    cases agrees.exists_scalar rfl
  have setData : (Value.collection .set [.null, .bool false]).IsData :=
    Value.isData_of_items rfl (fun _ => by simpa using different) (by simp [nothing, flag])
  have expectedData : expected.IsData :=
    Value.isData_of_items rfl nofun (by simp [flag, setData])
  have givenData : given.IsData := Value.isData_of_items rfl nofun (by simp [flag])
  have ends : given.EndsAfter comparisonLimit := by
    have item : (Value.bool true).EndsAfter 989 := .of_parts (by simp [Value.parts, Value.view])
    exact .of_parts (by simpa [given, Value.parts, Value.view] using item)
  obtain ⟨accepts, _, _, _, answers⟩ :=
    literal_accepts_agreeing expectedData givenData (.inr ends)
  have refused : (Validator.literal expected).run given ≠ pure (.ok given) := fun accepted =>
    absurd (accepts.mp accepted).2 (by decide)
  exact ⟨rfl, (answers refused).1 _ _ rfl rfl⟩

/-- The types of the items are not looked at. -/
theorem literal_accepts_items_of_other_types :
    let expected := Value.list [.int 1]
    let given := Value.list [.bool true]
    expected.IsData ∧ given.IsData ∧ ¬ Agrees true given expected ∧
      (Validator.literal expected).run given = pure (.ok given) := by
  intro expected given
  have whole : (Value.int 1).IsData := Value.isData_of_scalar rfl
  have flag : (Value.bool true).IsData := Value.isData_of_scalar rfl
  have expectedData : expected.IsData := Value.isData_of_items rfl nofun (by simpa using whole)
  have givenData : given.IsData := Value.isData_of_items rfl nofun (by simpa using flag)
  refine ⟨expectedData, givenData, ?_, rfl⟩
  intro agrees
  obtain ⟨_, _, isItems, _, arranges⟩ := agrees.exists_items rfl
  cases isItems
  obtain ⟨item, member, itemAgrees⟩ := arranges.exists_of_mem List.mem_cons_self
  cases List.mem_singleton.mp member
  exact absurd (itemAgrees.typeName_eq rfl) (by decide)

end TolerantValidation
