import TolerantValidation.Json.Writer
import TolerantValidation.Named
import TolerantValidation.Value.Entries

/-!
Lines of a log: what may keep one from being written, and the line in JSON.
-/

namespace TolerantValidation.Log

inductive LineFault where
  | tooDeep
  | notShown
deriving DecidableEq

def LineFault.ofText : TextFault → LineFault
  | .tooDeep => .tooDeep
  | .tooManyDigits => .notShown

def jsonLine (fields : Named Value) : Except LineFault String :=
  (Json.write (Value.ofFields fields)).mapError fun
    | .text fault => .ofText fault
    | .keyType | .circular => .notShown

end TolerantValidation.Log
