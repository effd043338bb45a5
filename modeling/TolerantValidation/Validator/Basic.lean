import TolerantValidation.Outcome
import TolerantValidation.Document.Format
import TolerantValidation.Record.Coercion

/-!
Validators: immutable descriptions of a check on untyped input. The functions of the caller are part
of the description; running them may have effects and may raise.
-/

namespace TolerantValidation

inductive Reply where
  | outcome (outcome : Outcome Value Value)
  | other (value : Value)

structure FailureContext where
  failure : Failure
  input : Value

/-- A function of the caller that is told about a failure. As a sink it gives the
substitute value. -/
abbrev Sink := FailureContext → Run Value

inductive Validator where
  | string (least greatest : Option Int)
  | integer
  | number
  | boolean
  | unknown
  | literal (expected : Value)
  | format (format : Document.Format)
  | notCircular
  | model (shape : Record.FieldType) (strict : Bool)
  | transform (inner : Validator) (step : Value → Run Reply)
  | pipe (first second : Validator)
  /-- Refuses what a check is false of. -/
  | refine (inner : Validator) (check : Value → Run Value) (message : String) (code : IssueCode)
      (fatal : Bool)
  /-- Substitutes the sink's value for a failure that is not fatal. -/
  | fallback (inner : Validator) (sink : Sink)
  | array (element : Validator)
  | record (value key : Validator)
  | looseArray (element : Validator) (onError : Option Sink)
  | looseRecord (value key : Validator) (onError : Option Sink)

namespace Validator

def map (inner : Validator) (change : Value → Run Value) : Validator :=
  .transform inner fun value => do pure (.outcome (.ok (← change value)))

def withDefault (inner : Validator) (value : Value) : Validator :=
  .fallback inner fun _ => pure value

def kindName : Validator → String
  | .string .. => "String"
  | .integer => "Integer"
  | .number => "Number"
  | .boolean => "Boolean"
  | .unknown => "Unknown"
  | .literal _ => "Literal"
  | .format _ => "FormatValidator"
  | .notCircular => "_NotCircular"
  | .model .. => "Model"
  | .transform .. => "Transform"
  | .pipe .. => "Pipe"
  | .refine .. => "Refinement"
  | .fallback .. => "Fallback"
  | .array _ => "Array"
  | .record .. => "Record"
  | .looseArray .. => "LooseArray"
  | .looseRecord .. => "LooseRecord"

end Validator
end TolerantValidation
