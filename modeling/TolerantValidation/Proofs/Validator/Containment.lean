import TolerantValidation.Proofs.Record.Calls
import TolerantValidation.Proofs.Validator.Telling
import TolerantValidation.Proofs.Value.Comparison
import TolerantValidation.Proofs.Value.Writing

/-!
Containment of faults. What the caller's functions raise in steps and checks, and what keeps a text
from being read, ends up as an issue. A fault is left only where the caller breaks a promise: a sink
raises, a step gives no outcome, a key cannot be stored, a value cannot be compared or shown, or a
function before a field of a model raises what is not about the field.
-/

namespace TolerantValidation

def Reply.shown : Reply → List Value
  | .outcome (.err (.issue _)) => []
  | .outcome (.err error) => [error]
  | _ => []

/-- The values that the action may have to show. -/
def Action.shown : Action → List Value
  | .part (.literal expected) given => [expected, given]
  | .step function accepted =>
    match (function accepted).outcome with
    | .ok reply => reply.shown
    | .error fault => fault.shown
  | .check function accepted =>
    match (function accepted).outcome with
    | .ok _ => []
    | .error fault => fault.shown
  | _ => []

namespace Validator

/-- What the caller promises for a run outside its models: sinks and callbacks do not raise, steps
raise or give an outcome, accepted keys can be stored, expected values have no cycles, and whatever
may have to be shown has no whole number too long to be written and nests less deep than it is
followed. -/
structure PromisedOutside (validator : Validator) (input : Value) : Prop where
  sinks : ∀ sink context, validator.Performs input (.sink sink context) → (sink context).Answers
  steps : ∀ step accepted other, validator.Performs input (.step step accepted) →
    (step accepted).outcome ≠ .ok (.other other)
  keys : ∀ key stored, validator.Performs input (.store key stored) → key.keyFault? stored = none
  literals : ∀ expected given, validator.Performs input (.part (.literal expected) given) →
    expected.IsAcyclic
  shown : ∀ action, validator.Performs input action → ∀ value ∈ action.shown, value.IsShowable

/-- What the caller promises for a run: in its models too, what a function raises is about the field
before which it stands. -/
structure Promised (validator : Validator) (input : Value) : Prop
    extends PromisedOutside validator input where
  models : ∀ shape strict given, validator.Performs input (.part (.model shape strict) given) →
    ∀ called value fault, Record.Calls strict shape given called value →
      (called value).outcome = .error fault → fault.IsAboutField

theorem Promised.ofPart {whole part : Validator} {input given : Value}
    (promised : whole.Promised input)
    (reached : ∀ action, part.Performs given action → whole.Performs input action) :
    part.Promised given where
  sinks sink context performs := promised.sinks sink context (reached _ performs)
  steps step accepted other performs := promised.steps step accepted other (reached _ performs)
  keys key stored performs := promised.keys key stored (reached _ performs)
  literals expected given performs := promised.literals expected given (reached _ performs)
  shown action performs := promised.shown action (reached action performs)
  models shape strict inner performs := promised.models shape strict inner (reached _ performs)

theorem ofText_answers {Shown : Type} {result : Except TextFault Shown}
    (written : IsWritten result) :
    (Run.ofText result).Answers := by
  obtain ⟨shown, rfl⟩ := written
  exact ⟨shown, rfl⟩

theorem checkFormat_answers (format : Document.Format) (value : Value) :
    (checkFormat format value).Answers := by
  unfold checkFormat
  split
  · rename_i characters
    cases outcome : (format.read characters).outcome with
    | error fault => exact ⟨_, by simp only [outcome]; rfl⟩
    | ok document => exact ⟨.ok document, by simp only [outcome]⟩
  · exact Effect.pure_answers _

theorem arrayOf_answers_iff {check : Value → Run Verdict} {input : Value} {items : List Value}
    (sequence : input.sequence? = some items) :
    (arrayOf check input).Answers ↔ ∀ item ∈ items, (check item).Answers := by
  rw [← sortItems_answers_iff 0 items]
  simp only [arrayOf, sequence]
  exact Effect.bind_pure_answers

theorem looseArrayOf_answers_iff {check : Value → Run Verdict} {input : Value} {items : List Value}
    (sequence : input.sequence? = some items) :
    (looseArrayOf check none input).Answers ↔ ∀ item ∈ items, (check item).Answers := by
  rw [← sortItems_answers_iff 0 items]
  simp only [looseArrayOf, sequence, keepItems_eq_sortItems check 0 items, bind_assoc, pure_bind]
  exact Effect.bind_pure_answers

section Entries

variable {checkKey checkValue : Value → Run Verdict} {state : List (Value × Value) × List Issue}
variable {entry : Value × Value}

theorem sortEntry_answers (keyAnswers : (checkKey entry.1).Answers)
    (valueAnswers : (checkValue entry.2).Answers)
    (storable : state.2 = [] → ∀ key value, (checkKey entry.1).outcome = .ok (.ok key) →
      (checkValue entry.2).outcome = .ok (.ok value) → key.keyFault? state.1 = none) :
    (sortEntry checkKey checkValue state entry).Answers := by
  obtain ⟨key, keyAnswered⟩ := keyAnswers
  obtain ⟨value, valueAnswered⟩ := valueAnswers
  refine Effect.bind_answers.mpr ⟨key, keyAnswered, ?_⟩
  refine Effect.bind_answers.mpr ⟨value, valueAnswered, ?_⟩
  split
  · rename_i key value
    by_cases noIssues : state.2 = []
    · rw [store_of_noFault (storable noIssues key value keyAnswered valueAnswered)]
      simp only [noIssues]
      exact Effect.pure_answers _
    · simp only [List.isEmpty_iff, noIssues, if_false]
      exact Effect.pure_answers _
  · exact Effect.pure_answers _

end Entries

end Validator

end TolerantValidation
