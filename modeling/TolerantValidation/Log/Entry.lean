import TolerantValidation.Named
import TolerantValidation.Value.Basic

/-!
Log entries: an event with a level, the logger that it went to and named values.
-/

namespace TolerantValidation.Log

inductive Level where
  | debug
  | info
  | warning
  | error
  | critical
deriving DecidableEq

namespace Level

def severity : Level → Nat
  | .debug => 10
  | .info => 20
  | .warning => 30
  | .error => 40
  | .critical => 50

def name : Level → String
  | .debug => "debug"
  | .info => "info"
  | .warning => "warning"
  | .error => "error"
  | .critical => "critical"

end Level

structure Entry where
  logger : String
  level : Level
  event : String
  fields : Named Value

def parserLogger : String := "resilient_schema.parsers"

def sinkLogger : String := "resilient_schema.validation.sinks"

def boundaryLogger : String := "resilient_schema.validation.boundaries"

def traceLogger : String := "resilient_schema.trace"

end TolerantValidation.Log
