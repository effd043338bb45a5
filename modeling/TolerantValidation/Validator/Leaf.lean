import TolerantValidation.Validator.Basic
import TolerantValidation.Value.Cycle

/-!
Validators without parts. Each answers with the input or what it read from it, or with one issue at
the root.
-/

namespace TolerantValidation

abbrev Verdict := Outcome Failure Value

namespace Verdict

def refuse (issue : Issue) : Verdict := .err (.ofIssue issue)

def wrongType (expected : String) (value : Value) : Verdict :=
  refuse (.wrongType expected value)

end Verdict

namespace Validator

def checkString (least greatest : Option Int) (value : Value) : Verdict :=
  match value with
  | .text characters =>
    let length : Int := characters.length
    match least.filter (length < ·), greatest.filter (· < length) with
    | some bound, _ =>
      .refuse { code := .invalidValue
                message := "String length " ++ toString length ++ " is less than minimum " ++
                  toString bound }
    | none, some bound =>
      .refuse { code := .invalidValue
                message := "String length " ++ toString length ++ " exceeds maximum " ++
                  toString bound }
    | none, none => .ok value
  | _ => .wrongType "string" value

def checkInteger (value : Value) : Verdict :=
  match value with
  | .int _ => .ok value
  | _ => .wrongType "integer" value

def checkNumber (value : Value) : Verdict :=
  match value with
  | .int _ | .float _ => .ok value
  | _ => .wrongType "number" value

def checkBoolean (value : Value) : Verdict :=
  match value with
  | .bool _ => .ok value
  | _ => .wrongType "boolean" value

/-- Accepts a value that equals the expected one and has its type; else shows both. -/
def checkLiteral (expected value : Value) : Run Verdict :=
  match value.equal? expected with
  | none => throw (.text .tooDeep)
  | some equal =>
    if equal && value.sameType expected then pure (.ok value)
    else do
      let wanted ← Run.ofText expected.notationText
      let given ← Run.ofText value.notationText
      pure (.refuse {
        code := .invalidValue, message := "Expected " ++ wanted ++ ", got " ++ given })

def checkFormat (format : Document.Format) (value : Value) : Run Verdict :=
  match value with
  | .text characters =>
    let reading := format.read characters
    ⟨reading.events,
      match reading.outcome with
      | .ok document => .ok (.ok document)
      | .error _ => .ok (.refuse (.custom ("Invalid " ++ format.name)))⟩
  | _ => pure (.wrongType "string" value)

def circularMessage : String := "values cannot be circular data structures"

def tooDeepMessage : String := "value is nested too deeply to check for cycles"

def checkNotCircular (value : Value) : Verdict :=
  match value.isCircular? with
  | none => .refuse (.custom tooDeepMessage true)
  | some true => .refuse (.custom circularMessage true)
  | some false => .ok value

/-- Reads a record; every field error becomes an issue. What else its steps raise is raised. -/
def checkModel (shape : Record.FieldType) (strict : Bool) (value : Value) : Run Verdict := do
  match ← Record.read strict shape value with
  | .ok fitted => pure (.ok fitted)
  | .error errors => pure (.err { issues := errors.map Record.FieldError.toIssue })

end Validator
end TolerantValidation
