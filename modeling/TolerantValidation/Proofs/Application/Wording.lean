import TolerantValidation.Application.Error
import TolerantValidation.Proofs.Value.Writing

/-!
The texts that a report of a failure needs: it can be built exactly if every path of the failure has
a text, that is, if every segment can be displayed.
-/

namespace TolerantValidation

section Writing

variable {Item Shown More State : Type}

theorem not_isWritten_error (fault : TextFault) :
    ¬ IsWritten (.error fault : Except TextFault Shown) := by
  rintro ⟨_, ⟨⟩⟩

theorem isWritten_of_bind {result : Except TextFault Shown} {next : Shown → Except TextFault More}
    (written : IsWritten (result >>= next)) : IsWritten result := by
  cases result with
  | error fault => exact absurd written (not_isWritten_error fault)
  | ok shown => exact isWritten_ok shown

theorem isWritten_bind_iff {result : Except TextFault Shown}
    {next : Shown → Except TextFault More} (goesOn : ∀ shown, IsWritten (next shown)) :
    IsWritten (result >>= next) ↔ IsWritten result :=
  ⟨isWritten_of_bind, fun written => isWritten_bind written goesOn⟩

theorem isWritten_mapM_iff {write : Item → Except TextFault Shown} {items : List Item} :
    IsWritten (items.mapM write) ↔ ∀ item ∈ items, IsWritten (write item) := by
  refine ⟨?_, isWritten_mapM⟩
  induction items with
  | nil => simp
  | cons item rest ih =>
      rintro ⟨texts, written⟩
      rw [List.mapM_cons] at written
      cases first : write item with
      | error fault =>
          rw [first] at written
          cases written
      | ok text =>
          rw [first] at written
          have restWritten : IsWritten (rest.mapM write) := isWritten_of_bind ⟨texts, written⟩
          exact List.forall_mem_cons.mpr ⟨⟨text, first⟩, ih restWritten⟩

theorem isWritten_foldlM_iff {write : Item → Except TextFault Shown}
    {next : State → Item → Shown → State} {items : List Item} {start : State} :
    IsWritten (items.foldlM (fun state item => do .ok (next state item (← write item))) start) ↔
      ∀ item ∈ items, IsWritten (write item) := by
  induction items generalizing start with
  | nil => exact ⟨fun _ => by simp, fun _ => isWritten_ok start⟩
  | cons item rest ih =>
      rw [List.foldlM_cons, List.forall_mem_cons]
      cases first : write item with
      | error fault =>
          have stops : ¬ IsWritten (.error fault : Except TextFault Shown) :=
            not_isWritten_error fault
          exact ⟨fun written => absurd written (not_isWritten_error fault),
            fun both => absurd both.1 stops⟩
      | ok text =>
          exact ih.trans ⟨fun others => ⟨isWritten_ok text, others⟩, And.right⟩

end Writing

theorem Value.segmentText_isWritten_iff {display : Value → Except TextFault String}
    {isFirst : Bool} {segment : Value} :
    IsWritten (segmentText display isFirst segment) ↔ IsWritten (display segment) := by
  refine ⟨?_, segmentText_isWritten isFirst⟩
  unfold segmentText
  split <;> exact isWritten_of_bind

theorem IssueAt.field_isWritten_iff {issue : Issue} :
    IsWritten issue.field ↔ ∀ segment ∈ issue.path, IsWritten segment.display := by
  refine ⟨?_, Value.pathTextBy_isWritten⟩
  unfold IssueAt.field Value.pathText
  cases issue.path with
  | nil => simp
  | cons first rest =>
      rintro ⟨text, written⟩
      have headWritten := isWritten_of_bind ⟨text, written⟩
      obtain ⟨head, headEq⟩ := headWritten
      rw [Value.pathTextBy, headEq] at written
      have tailWritten := isWritten_mapM_iff.mp (isWritten_of_bind ⟨text, written⟩)
      refine List.forall_mem_cons.mpr ⟨Value.segmentText_isWritten_iff.mp ⟨head, headEq⟩, ?_⟩
      exact fun segment member => Value.segmentText_isWritten_iff.mp (tailWritten segment member)

theorem IssueAt.toMapping_isWritten_iff {issue : Issue} :
    IsWritten issue.toMapping ↔ IsWritten issue.field :=
  isWritten_bind_iff fun _ => isWritten_ok _

namespace FailureAt

/-- Every segment of every path can be displayed, so every path has a text. -/
def HasFields (failure : Failure) : Prop :=
  ∀ issue ∈ failure.issues, ∀ segment ∈ issue.path, IsWritten segment.display

variable {failure : Failure}

theorem hasFields_iff : failure.HasFields ↔ ∀ issue ∈ failure.issues, IsWritten issue.field := by
  simp only [HasFields, IssueAt.field_isWritten_iff]

theorem hasFields_of_isShowable
    (showable : ∀ issue ∈ failure.issues, ∀ segment ∈ issue.path, segment.IsShowable) :
    failure.HasFields :=
  fun issue member segment inside => Value.display_isWritten (showable issue member segment inside)

theorem flatValue_isWritten_iff : IsWritten failure.flatValue ↔ failure.HasFields := by
  rw [hasFields_iff, flatValue, isWritten_bind_iff fun _ => isWritten_ok _, flatten,
    isWritten_bind_iff fun _ => isWritten_ok _, fieldErrors, isWritten_foldlM_iff]

end FailureAt

namespace ApplicationError

variable {correlationId origin : String} {failure : Failure}

/-- What callers are told of a failure: its only issue with its path, or how many issues there are
and all of them, in order. -/
inductive StandsFor (failure : Failure) : ErrorCode → String → Metadata → Prop
  | one {issue path} : failure.issues = [issue] → issue.field = .ok path →
      StandsFor failure issue.code.errorCode (path ++ ": " ++ issue.message)
        [("field", .text path), ("fatal", .bool issue.fatal)]
  | several {listed} : failure.issues.length ≠ 1 →
      failure.issues.mapM IssueAt.toMapping = .ok listed →
      StandsFor failure .validationGeneric
        (failure.message ++ ": " ++ toString failure.issues.length ++ " issues")
        [("error_count", .int failure.issues.length), ("errors", .list listed)]

theorem ofFailure_eq_of_standsFor {code : ErrorCode} {message : String} {metadata : Metadata}
    (standsFor : StandsFor failure code message metadata) :
    ofFailure correlationId failure origin =
      .ok { code, message, origin, correlationId, metadata } := by
  cases standsFor with
  | one only field =>
      rw [ofFailure, only]
      simp only [field]
      rfl
  | several notOne listed =>
      rw [ofFailure]
      split
      · rename_i issue only
        exact absurd (by rw [only]; rfl) notOne
      · rw [listed]
        rfl

theorem exists_standsFor (hasFields : failure.HasFields) :
    ∃ code message metadata, StandsFor failure code message metadata := by
  rw [FailureAt.hasFields_iff] at hasFields
  by_cases single : failure.issues.length = 1
  · obtain ⟨issue, only⟩ := List.length_eq_one_iff.mp single
    obtain ⟨path, field⟩ := hasFields issue (by simp [only])
    exact ⟨_, _, _, .one only field⟩
  · obtain ⟨listed, listedEq⟩ := isWritten_mapM fun issue member =>
      IssueAt.toMapping_isWritten_iff.mpr (hasFields issue member)
    exact ⟨_, _, _, .several single listedEq⟩

theorem ofFailure_isWritten_iff :
    IsWritten (ofFailure correlationId failure origin) ↔ failure.HasFields := by
  constructor
  · rw [FailureAt.hasFields_iff, ofFailure]
    intro written
    split at written
    · rename_i issue only
      rw [only]
      simpa using isWritten_of_bind written
    · have listed := isWritten_mapM_iff.mp (isWritten_of_bind written)
      exact fun issue member => IssueAt.toMapping_isWritten_iff.mp (listed issue member)
  · intro hasFields
    obtain ⟨code, message, metadata, standsFor⟩ := exists_standsFor hasFields
    exact ⟨_, ofFailure_eq_of_standsFor standsFor⟩

end ApplicationError
end TolerantValidation
