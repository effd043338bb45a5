import TolerantValidation.Proofs.Validator.Loops

/-!
What a run does besides combining verdicts: it runs parts of the validator, calls functions of the
caller and stores values under keys. `Performs` says which of these actions the run of a validator
on an input gets to.
-/

namespace TolerantValidation

inductive Action where
  /-- A validator is run on a value. -/
  | part (validator : Validator) (input : Value)
  | step (step : Value → Run Reply) (accepted : Value)
  | check (check : Value → Run Value) (accepted : Value)
  /-- A sink or a callback is told about a failure. -/
  | sink (sink : Sink) (context : FailureContext)
  /-- A value is stored under a key, besides what is stored already. -/
  | store (key : Value) (stored : List (Value × Value))

namespace Validator

/-- The run of a validator on an input performs an action. A loop gets to an item or an entry if
the run on what stands before it gives an answer. -/
inductive Performs : Validator → Value → Action → Prop
  | self {validator input} : Performs validator input (.part validator input)
  | transformed {inner step input action} : Performs inner input action →
      Performs (.transform inner step) input action
  | step {inner step input accepted} : (inner.run input).outcome = .ok (.ok accepted) →
      Performs (.transform inner step) input (.step step accepted)
  | first {first second input action} : Performs first input action →
      Performs (.pipe first second) input action
  | second {first second input accepted action} : (first.run input).outcome = .ok (.ok accepted) →
      Performs second accepted action → Performs (.pipe first second) input action
  | refined {inner check message code fatal input action} : Performs inner input action →
      Performs (.refine inner check message code fatal) input action
  | check {inner check message code fatal input accepted} :
      (inner.run input).outcome = .ok (.ok accepted) →
      Performs (.refine inner check message code fatal) input (.check check accepted)
  | recovered {inner sink input action} : Performs inner input action →
      Performs (.fallback inner sink) input action
  | sink {inner sink input failure} : (inner.run input).outcome = .ok (.err failure) →
      failure.isFatal = false → Performs (.fallback inner sink) input (.sink sink ⟨failure, input⟩)
  | item {element input before item after action} :
      input.sequence? = some (before ++ item :: after) →
      ((Validator.array element).run (.list before)).Answers → Performs element item action →
      Performs (.array element) input action
  | key {value key input before entry after action} :
      input.entries? = some (before ++ entry :: after) →
      ((Validator.record value key).run (.mapping before)).Answers →
      Performs key entry.1 action → Performs (.record value key) input action
  | value {value key input before entry after verdict action} :
      input.entries? = some (before ++ entry :: after) →
      ((Validator.record value key).run (.mapping before)).Answers →
      (key.run entry.1).outcome = .ok verdict → Performs value entry.2 action →
      Performs (.record value key) input action
  | store {value key input before entry after stored acceptedKey accepted} :
      input.entries? = some (before ++ entry :: after) →
      ((Validator.record value key).run (.mapping before)).outcome = .ok (.ok (.mapping stored)) →
      (key.run entry.1).outcome = .ok (.ok acceptedKey) →
      (value.run entry.2).outcome = .ok (.ok accepted) →
      Performs (.record value key) input (.store acceptedKey stored)
  | looseItem {element onError input before item after action} :
      input.sequence? = some (before ++ item :: after) →
      ((Validator.looseArray element none).run (.list before)).Answers →
      Performs element item action → Performs (.looseArray element onError) input action
  | toldOfItems {element callback input items accepted issues} : input.sequence? = some items →
      (sortItems element.run 0 items).outcome = .ok (accepted, issues) → issues ≠ [] →
      Performs (.looseArray element (some callback)) input (.sink callback ⟨{ issues }, input⟩)
  | looseKey {value key onError input before entry after action} :
      input.entries? = some (before ++ entry :: after) →
      ((Validator.looseRecord value key none).run (.mapping before)).Answers →
      Performs key entry.1 action → Performs (.looseRecord value key onError) input action
  | looseValue {value key onError input before entry after acceptedKey action} :
      input.entries? = some (before ++ entry :: after) →
      ((Validator.looseRecord value key none).run (.mapping before)).Answers →
      (key.run entry.1).outcome = .ok (.ok acceptedKey) → Performs value entry.2 action →
      Performs (.looseRecord value key onError) input action
  | looseStore {value key onError input before entry after stored acceptedKey accepted} :
      input.entries? = some (before ++ entry :: after) →
      ((Validator.looseRecord value key none).run (.mapping before)).outcome =
        .ok (.ok (.mapping stored)) →
      (key.run entry.1).outcome = .ok (.ok acceptedKey) →
      (value.run entry.2).outcome = .ok (.ok accepted) →
      Performs (.looseRecord value key onError) input (.store acceptedKey stored)
  | toldOfEntries {value key callback input entries stored issues} :
      input.entries? = some entries →
      (sortLooseEntries key.run value.run [] [] entries).outcome = .ok (stored, issues) →
      issues ≠ [] →
      Performs (.looseRecord value key (some callback)) input (.sink callback ⟨{ issues }, input⟩)

/-! The runs of combinators as chains of outcomes. -/

theorem run_transform (inner : Validator) (step : Value → Run Reply) (input : Value) :
    (Validator.transform inner step).run input =
      inner.run input >>= fun verdict => verdict.andThen (applyStep step) := by
  apply congrArg (inner.run input >>= ·)
  funext verdict
  cases verdict <;> rfl

theorem run_pipe (first second : Validator) (input : Value) :
    (Validator.pipe first second).run input =
      first.run input >>= fun verdict => verdict.andThen second.run := by
  apply congrArg (first.run input >>= ·)
  funext verdict
  cases verdict <;> rfl

theorem run_refine (inner : Validator) (check : Value → Run Value) (message : String)
    (code : IssueCode) (fatal : Bool) (input : Value) :
    (Validator.refine inner check message code fatal).run input =
      inner.run input >>= fun verdict => verdict.andThen (applyCheck check message code fatal) := by
  apply congrArg (inner.run input >>= ·)
  funext verdict
  cases verdict <;> rfl

def recover (sink : Sink) (input : Value) : Verdict → Run Verdict
  | .ok accepted => pure (.ok accepted)
  | .err failure =>
    if failure.isFatal then pure (.err failure)
    else do pure (.ok (← sink ⟨failure, input⟩))

theorem run_fallback (inner : Validator) (sink : Sink) (input : Value) :
    (Validator.fallback inner sink).run input = inner.run input >>= recover sink input := by
  apply congrArg (inner.run input >>= ·)
  funext verdict
  cases verdict <;> rfl

theorem run_array (element : Validator) (input : Value) :
    (Validator.array element).run input = arrayOf element.run input := rfl

theorem run_record (value key : Validator) (input : Value) :
    (Validator.record value key).run input = recordOf key.run value.run input := rfl

theorem run_looseArray (element : Validator) (onError : Option Sink) (input : Value) :
    (Validator.looseArray element onError).run input = looseArrayOf element.run onError input := rfl

theorem run_looseRecord (value key : Validator) (onError : Option Sink) (input : Value) :
    (Validator.looseRecord value key onError).run input =
      looseRecordOf key.run value.run onError input := rfl

end Validator
end TolerantValidation
