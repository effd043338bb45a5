import TolerantValidation.Application.Error
import TolerantValidation.Validator.Run

/-!
Document boundaries: documents from outside are read and validated once, where they come in. What
fails becomes an application error and one log entry that refer to each other.
-/

namespace TolerantValidation

structure Boundary where
  validator : Validator
  origin : String := "external"

namespace Boundary

def components (path : List Char) : List (List Char) :=
  (path.splitBy fun left right => left != '/' && right != '/').filter fun component =>
    component != ['/'] && component != ['.']

/-- The part of a file name from its last point on, in lower case. A point at either end does not
count. -/
def suffix (filename : String) : String :=
  let name := ((components filename.toList).getLast?).getD []
  let afterPoint := (name.reverse.takeWhile (· ≠ '.')).reverse
  let beforePoint := name.take (name.length - afterPoint.length - 1)
  if beforePoint.isEmpty || afterPoint.isEmpty || afterPoint.length = name.length then ""
  else String.ofList (Number.asciiLower ('.' :: afterPoint))

def formatOf? (filename : String) : Option Document.Format :=
  let suffix := suffix filename
  if [".json", ".jsonc", ".json5"].contains suffix then some (.jsonFile filename)
  else if [".yaml", ".yml"].contains suffix then some (.yaml {})
  else if suffix = ".toml" then some .toml
  else none

def expectedFormats : String := "json, json5, jsonc, yaml or toml file"

def entry (level : Log.Level) (event : String) (fields : Metadata) : Log.Entry :=
  { logger := Log.boundaryLogger, level, event, fields }

def check (boundary : Boundary) (correlationId : String) (validator : Validator) (input : Value)
    (metadata : Metadata) : Run (Outcome ApplicationError Value) := do
  let captured ← ApplicationError.capture correlationId (validator.run input) .unexpectedError
    boundary.origin
  match captured with
  | .err crash =>
    let crash := crash.withMetadata metadata
    Effect.log (entry .error "document_validation_crashed"
      (Named.merge
        [("origin", .text boundary.origin), ("error_id", .text crash.errorId),
          ("category", .text crash.code.category), ("error", .text crash.message)] metadata))
    pure (.err crash)
  | .ok (.ok accepted) => pure (.ok accepted)
  | .ok (.err failure) =>
    let error ← Run.ofText (ApplicationError.ofFailure correlationId failure boundary.origin)
    let error := error.withMetadata metadata
    let issues ← Run.ofText failure.flatValue
    Effect.log (entry .warning "document_validation_failed"
      (Named.merge
        [("origin", .text boundary.origin), ("error_id", .text error.errorId),
          ("category", .text error.code.category), ("issues", issues)] metadata))
    pure (.err error)

def parseExternal (boundary : Boundary) (correlationId : String) (data : Value)
    (service : String) : Run (Outcome ApplicationError Value) :=
  boundary.check correlationId boundary.validator data [("service", .text service)]

def parseFile (boundary : Boundary) (correlationId : String) (content : Value)
    (filename : String) : Run (Outcome ApplicationError Value) :=
  match formatOf? filename with
  | none =>
    pure (.err (ApplicationError.ofFormat correlationId filename expectedFormats boundary.origin))
  | some format =>
    boundary.check correlationId (.pipe (.format format) boundary.validator) content
      [("filename", .text filename)]

end Boundary
end TolerantValidation
