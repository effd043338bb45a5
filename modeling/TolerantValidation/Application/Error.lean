import TolerantValidation.Named
import TolerantValidation.Outcome

/-!
Application errors: what the callers of a boundary get in place of issues. An error has a numbered
code, a message, named metadata, an origin, an id that ties it to its log entry, and the fault that
caused it if there was one. The id comes from the caller, so building an error has no effects.
-/

namespace TolerantValidation

inductive ErrorCode where
  | validationGeneric
  | invalidFormat
  | invalidType
  | constraintViolation
  | internalGeneric
  | unexpectedError
deriving DecidableEq

namespace ErrorCode

def all : List ErrorCode :=
  [.validationGeneric, .invalidFormat, .invalidType, .constraintViolation, .internalGeneric,
    .unexpectedError]

def number : ErrorCode → Nat
  | .validationGeneric => 2000
  | .invalidFormat => 2002
  | .invalidType => 2004
  | .constraintViolation => 2005
  | .internalGeneric => 9000
  | .unexpectedError => 9001

def name : ErrorCode → String
  | .validationGeneric => "E2000_VALIDATION_GENERIC"
  | .invalidFormat => "E2002_INVALID_FORMAT"
  | .invalidType => "E2004_INVALID_TYPE"
  | .constraintViolation => "E2005_CONSTRAINT_VIOLATION"
  | .internalGeneric => "E9000_INTERNAL_GENERIC"
  | .unexpectedError => "E9001_UNEXPECTED_ERROR"

def category (code : ErrorCode) : String :=
  if 2000 ≤ code.number ∧ code.number < 3000 then "validation" else "internal"

def ofName? (name : String) : Option ErrorCode :=
  all.find? (·.name = name)

end ErrorCode

def IssueCode.errorCode : IssueCode → ErrorCode
  | .invalidType => .invalidType
  | .invalidValue => .constraintViolation
  | .custom => .validationGeneric

abbrev Metadata := Named Value

structure ApplicationError where
  code : ErrorCode
  message : String
  origin : String
  correlationId : String
  metadata : Metadata := []
  cause : Option Fault := none

namespace ApplicationError

def errorId (error : ApplicationError) : String :=
  error.code.name ++ ":" ++ error.correlationId

def text (error : ApplicationError) : String :=
  "[" ++ error.code.name ++ "] " ++ error.message ++ " (correlation_id=" ++
    error.correlationId ++ ")"

def withMetadata (error : ApplicationError) (more : Metadata) : ApplicationError :=
  { error with metadata := Named.merge error.metadata more }

def ofValidation (correlationId message : String) (code : ErrorCode) (origin : String)
    (field value : Value) (metadata : Metadata) : ApplicationError :=
  let given := Named.merge [("field", field), ("value", value)] metadata
  { code, message, origin, correlationId
    metadata := given.filter fun entry => match entry.2 with
      | .null => false
      | _ => true }

def ofFormat (correlationId field expected origin : String) : ApplicationError :=
  ofValidation correlationId ("Invalid format for '" ++ field ++ "': expected " ++ expected)
    .invalidFormat origin (.text field) .null [("expected_format", .text expected)]

/-- An error for a fault. Without a message it takes the fault's display. -/
def ofFault (correlationId : String) (fault : Fault) (code : ErrorCode) (message origin : String)
    (metadata : Metadata) : Except TextFault ApplicationError := do
  let message ← if message.isEmpty then fault.display else .ok message
  .ok { code, message, origin, correlationId, metadata, cause := some fault }

def ofFailure (correlationId : String) (failure : Failure) (origin : String) :
    Except TextFault ApplicationError := do
  match failure.issues with
  | [issue] =>
    let field ← issue.field
    .ok (ofValidation correlationId (field ++ ": " ++ issue.message) issue.code.errorCode origin
      (.text field) .null [("fatal", .bool issue.fatal)])
  | issues =>
    let listed ← issues.mapM (·.toMapping)
    .ok (ofValidation correlationId
      (failure.message ++ ": " ++ toString issues.length ++ " issues") .validationGeneric origin
      .null .null [("error_count", .int issues.length), ("errors", .list listed)])

def capture {Answer : Type} (correlationId : String) (run : Run Answer) (code : ErrorCode)
    (origin : String) : Run (Outcome ApplicationError Answer) := do
  match ← run.attempt with
  | .ok answer => pure (.ok answer)
  | .error fault =>
    let error ← Run.ofText (ofFault correlationId fault code "" origin [])
    pure (.err error)

end ApplicationError
end TolerantValidation
