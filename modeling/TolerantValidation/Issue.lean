import TolerantValidation.Value.Display
import TolerantValidation.Value.Entries

/-!
Issues and failures. A validator reports issues with paths relative to what it was given; whoever
called it puts the segment that leads there in front, so paths read from the root to the leaf.
-/

namespace TolerantValidation

namespace IssueAt

def wrongType (expected : String) (value : Value) (fatal : Bool := false) : Issue :=
  { code := .invalidType, message := "Expected " ++ expected ++ ", got " ++ value.typeName, fatal }

def custom (message : String) (fatal : Bool := false) : Issue :=
  { code := .custom, message, fatal }

/-- The issue as seen from the container: the segment leads the path. -/
def below (segment : Value) (issue : Issue) : Issue :=
  { issue with path := segment :: issue.path }

def field (issue : Issue) : Except TextFault String :=
  Value.pathText issue.path

def toMapping (issue : Issue) : Except TextFault Value := do
  let field ← issue.field
  .ok (Value.ofFields
    [("field", .text field), ("path", .list issue.path),
      ("code", .text (IssueCode.text issue.code)), ("message", .text issue.message),
      ("fatal", .bool issue.fatal)])

end IssueAt

def groupInto (key : String) (issue : Issue) :
    List (String × List Issue) → List (String × List Issue)
  | [] => [(key, [issue])]
  | group :: rest =>
    if group.1 = key then (key, group.2 ++ [issue]) :: rest
    else group :: groupInto key issue rest

namespace FailureAt

def ofIssue (issue : Issue) : Failure := { issues := [issue] }

def isFatal (failure : Failure) : Bool :=
  failure.issues.any (·.fatal)

def text (failure : Failure) : Except TextFault String :=
  Value.failureTextBy Value.display failure

def below (segment : Value) (failure : Failure) : Failure :=
  { failure with issues := failure.issues.map (IssueAt.below segment) }

def fieldErrors (failure : Failure) : Except TextFault (List (String × List Issue)) :=
  failure.issues.foldlM (fun groups issue => do .ok (groupInto (← issue.field) issue groups)) []

def flatten (failure : Failure) : Except TextFault (List (String × List String)) := do
  let groups ← failure.fieldErrors
  .ok (groups.map fun group => (group.1, group.2.map (·.message)))

def flatValue (failure : Failure) : Except TextFault Value := do
  let groups ← failure.flatten
  .ok (Value.ofFields (groups.map fun group => (group.1, .list (group.2.map .text))))

def toMapping (failure : Failure) : Except TextFault Value := do
  let issues ← failure.issues.mapM (·.toMapping)
  .ok (Value.ofFields
    [("error", Value.ofFields
      [("type", .text "validation_error"), ("message", .text failure.message),
        ("error_count", .int failure.issues.length), ("errors", .list issues)])])

end FailureAt
end TolerantValidation
