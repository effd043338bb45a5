import TolerantValidation.Fault
import TolerantValidation.Log.Entry
import TolerantValidation.Log.Pattern

/-!
Calls on loggers. A call gives an event, arguments for the directives in it, and named values. It
becomes an entry, or a fault, whether or not the entry is written in the end.
-/

namespace TolerantValidation.Log

structure Call where
  logger : String
  level : Level
  event : String
  arguments : List Value := []
  fields : Named Value := []

namespace Call

/-- The function that has a parameter of this name, so that no field may have it. -/
def parameterOf? (level : Level) (name : String) : Option String :=
  if name = "event" ∨ name = "self" then some ("BoundLogger." ++ level.name)
  else if name = "method_name" then some "BoundLogger._proxy_to_logger"
  else none

def loggerName (name : String) : String :=
  if name.isEmpty then "root" else name

def renderEvent (call : Call) : Except Fault String :=
  match call.arguments with
  | [] => .ok call.event
  | arguments =>
    (Pattern.render call.event (Pattern.argumentsOf arguments)).mapError .pattern

def checkFields (call : Call) : Except Fault Unit :=
  let functions := call.fields.filterMap fun field =>
    (parameterOf? call.level field.1).map fun function => (function, field.1)
  match functions.find? (·.2 ≠ "method_name") <|> functions.head? with
  | some (function, name) => .error (.parameterTaken function name)
  | none => .ok ()

def entry (call : Call) : Except Fault Entry := do
  call.checkFields
  let event ← call.renderEvent
  .ok { logger := loggerName call.logger, level := call.level, event, fields := call.fields }

end Call
end TolerantValidation.Log
