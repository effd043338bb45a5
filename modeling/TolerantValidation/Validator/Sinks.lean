import TolerantValidation.Validator.Basic

/-!
Diagnostic sinks: they log what failed, by path, and give a substitute value. As callbacks of
tolerant collections their value is ignored.
-/

namespace TolerantValidation.Sink

def diagnosticEntry (logger message : String) (failure : Failure) : Except TextFault Log.Entry := do
  let issues ← failure.flatValue
  .ok { logger, level := .debug, event := message
        fields := [("issues", issues), ("issue_count", .int failure.issues.length)] }

def logging (logger : String) (value : Value) (message : String) : Sink := fun context => do
  let entry ← Run.ofText (diagnosticEntry logger message context.failure)
  Effect.log entry
  pure value

def debug (value : Value) (message : String) : Sink := logging Log.sinkLogger value message

def trace (value : Value) (message : String) : Sink := logging Log.traceLogger value message

def collecting (label : String) (value : Value) : Sink := fun context => do
  let _ ← Run.ofText (context.failure.issues.mapM (·.field))
  Effect.emit (.reported label context.failure context.input)
  pure value

def raising (kind : String) (message : Option String) : Sink := fun _ =>
  throw (.raised kind message)

end TolerantValidation.Sink
