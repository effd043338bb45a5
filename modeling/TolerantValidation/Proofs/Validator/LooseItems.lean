import TolerantValidation.Proofs.Validator.Failures

/-!
Tolerant sequences, item by item: which outputs are kept, which issues are told, and in which order
the items are run.
-/

namespace TolerantValidation

/-- What is told about items with the given verdicts: nothing if all of them are accepted, else the
issues of the others under their positions in the input. -/
def toldAboutItems (verdict : Value → Verdict) (items : List Value) (input : Value) :
    List FailureContext :=
  if items.any fun item => (verdict item).isErr then
    [⟨{ issues := items.zipIdx.flatMap fun place =>
        (verdict place.1).issuesBelow (.int place.2) }, input⟩]
  else []

namespace Validator

theorem any_isErr_iff {verdict : Value → Verdict} {items : List Value} :
    (items.any fun item => (verdict item).isErr) = true ↔
      ¬ ∀ item ∈ items, ∃ accepted, verdict item = .ok accepted := by
  have isErr : ∀ item, (verdict item).isErr = true ↔ ¬ ∃ accepted, verdict item = .ok accepted := by
    intro item
    cases verdict item with
    | ok accepted => simp [Outcome.isErr, Outcome.isOk]
    | err failure => simp [Outcome.isErr, Outcome.isOk]
  simp only [List.any_eq_true, isErr, not_forall, exists_prop]

theorem toldOf_itemIssues {verdict : Value → Verdict} {items : List Value}
    (reported : ∀ item ∈ items, (verdict item).IsReported) (input : Value) :
    toldOf (items.zipIdx.flatMap fun place => (verdict place.1).issuesBelow (.int place.2)) input =
      toldAboutItems verdict items input := by
  have noIssues := itemIssues_eq_nil_iff reported
  unfold toldOf toldAboutItems
  by_cases accepted : ∀ item ∈ items, ∃ accepted, verdict item = .ok accepted
  · rw [noIssues.mpr accepted, if_neg (any_isErr_iff.not_left.mpr accepted)]
    rfl
  · rw [if_pos (any_isErr_iff.mpr accepted), if_neg]
    simpa using noIssues.not.mpr accepted

end Validator

/-- A tolerant sequence runs its element once on each item, in order, then tells the callback once
if any item was refused, and accepts the outputs of the others in order. What is no sequence is
refused with one issue. -/
theorem looseArray_exact (element : Validator) (onError : Option Sink) (input : Value) :
    (input.sequence? = none →
      (Validator.looseArray element onError).run input =
        ⟨[], .ok (.err { issues := [{ code := .invalidType
                                      message := "Expected array, got " ++ input.typeName
                                      path := []
                                      fatal := false }] })⟩) ∧
    ∀ (items : List Value) (verdict : Value → Verdict),
      input.sequence? = some items →
      (∀ item ∈ items, (element.run item).outcome = .ok (verdict item)) →
      (Validator.looseArray element onError).run input = (do
        (⟨items.flatMap fun item => (element.run item).events, .ok ()⟩ : Run Unit)
        onError.forM fun callback => handTo callback (toldAboutItems verdict items input)
        pure (.ok (.list (items.flatMap fun item => (verdict item).toList)))) := by
  rw [Validator.run_looseArray]
  constructor
  · intro noSequence
    simp only [Validator.looseArrayOf, noSequence]
    rfl
  · intro items verdict sequence answered
    have reported : ∀ item ∈ items, (verdict item).IsReported :=
      fun item member => Validator.run_reported element (answered item member)
    have sorted := Validator.sortItems_eq 0 items answered
    cases onError with
    | none =>
        simp only [Validator.looseArrayOf, sequence, Validator.keepItems_eq_sortItems _ 0, sorted,
          bind_assoc, pure_bind]
        rfl
    | some callback =>
        simp only [Validator.looseArrayOf, sequence, sorted, tell_eq_handTo,
          ← Validator.toldOf_itemIssues reported]
        rfl

/-- A row with a text in it, a text for a row, and two equal rows. -/
theorem looseArray_exact_of_nested_rows :
    let note (label : String) : Sink := fun context => do
      Effect.emit (.reported label context.failure context.input)
      pure .null
    let row := Value.list [.int 1, .text "x"]
    let items := [row, .text "y", .list [.int 2], .list [.int 2]]
    (Validator.looseArray (.looseArray .integer (some (note "items"))) (some (note "rows"))).run
        (.tuple items) =
      ⟨[.reported "items" { issues := [{ code := .invalidType
                                         message := "Expected integer, got str"
                                         path := [.int 1] }] } row,
        .reported "rows" { issues := [{ code := .invalidType
                                        message := "Expected array, got str"
                                        path := [.int 1] }] } (.tuple items)],
        .ok (.ok (.list [.list [.int 1], .list [.int 2], .list [.int 2]]))⟩ := by
  intro note row items
  let element := Validator.looseArray .integer (some (note "items"))
  rw [(looseArray_exact element (some (note "rows")) (.tuple items)).2 items
    (Validator.verdictOf element.run) (Value.sequence?_collection_tuple items)
    (by simp only [items, List.forall_mem_cons]; exact ⟨rfl, rfl, rfl, rfl, by simp⟩)]
  rfl

end TolerantValidation
