import TolerantValidation.Validator.Run

/-!
Records of a package manifest: a dependency, a package, and a list of dependencies that is read
tolerantly. Here too is the way in which a validator stands before a field of a record.
-/

namespace TolerantValidation

namespace Validator

/-- A validator as the function before a field: its failures are raised as errors of values. -/
def asFieldStep (validator : Validator) (value : Value) : Run Value := do
  match ← validator.run value with
  | .ok accepted => pure accepted
  | .err failure => do
    let message ← Run.ofText failure.text
    throw (.raised "ValueError" (some message))

end Validator

namespace Record

def dependency : FieldType :=
  .record "Dependency" [("name", .text none none, none), ("version", .text none none, none)]

def package : FieldType :=
  .record "Package"
    [("name", .text (some 1) (some 10), none),
      ("count", .whole (some 0) (some 100), some (.int 0)),
      ("ratio", .real, some (.float .zero)),
      ("active", .flag, some (.bool false)),
      ("tags", .listOf (.text none none), some (.list [])),
      ("dep", .optional dependency, some .null)]

def manifest : FieldType :=
  .record "Manifest"
    [("deps", .after (Validator.looseArray .integer none).asFieldStep (.listOf (.whole none none)),
      none)]

end Record
end TolerantValidation
