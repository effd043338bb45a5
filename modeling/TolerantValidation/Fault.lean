import TolerantValidation.Issue
import TolerantValidation.Log.Pattern.Fault

/-!
Faults: why a computation stopped without an answer. A failed validation is no fault, it is an
answer. Faults come from the caller's functions, from values without a text, from keys that cannot
be stored and from functions that return something other than an outcome. All of them are ordinary
errors, which a handler of every error catches. Requests to end the program, such as an interrupt,
are none: they pass by all handlers and are left out.
-/

namespace TolerantValidation

inductive Fault where
  | raised (kind : String) (message : Option String)
  | rejected (failure : Failure)
  | missingKey (key : Value)
  | unhashable (typeName : String)
  | noOutcome (typeName : String)
  | noOptions (typeName : String)
  | noValidator (typeName : String)
  | notCallable (typeName : String)
  | parameterTaken (function name : String)
  | pattern (fault : Log.PatternFault)
  | unknownLevel (notation_ : String)
  | levelType (notation_ : String)
  | tooLargeForFloat
  | tooManyDigitsRead (digits : Nat)
  | unpairedSurrogate (shown : String)
  | text (fault : TextFault)

namespace Fault

def tooManyDigitsMessage : String :=
  "Exceeds the limit (4300 digits) for integer string conversion; " ++
    "use sys.set_int_max_str_digits() to increase the limit"

def tooManyDigitsReadMessage (digits : Nat) : String :=
  "Exceeds the limit (4300 digits) for integer string conversion: value has " ++ toString digits ++
    " digits; use sys.set_int_max_str_digits() to increase the limit"

def textMessage : TextFault → String
  | .tooDeep => "maximum recursion depth exceeded"
  | .tooManyDigits => tooManyDigitsMessage

def unpairedSurrogateMessage (text : String) : String :=
  let start := (text.toList.takeWhile fun character => !Text.isUnpairedSurrogate character).length
  let surrogates := (text.toList.drop start).takeWhile Text.isUnpairedSurrogate
  let named :=
    match surrogates with
    | [only] =>
      " '" ++ String.ofList (Text.codeEscape (Text.codePoint only)) ++ "' in position " ++
        toString start
    | several =>
      "s in position " ++ toString start ++ "-" ++ toString (start + several.length - 1)
  "'utf-8' codec can't encode character" ++ named ++ ": surrogates not allowed"

def kind : Fault → String
  | .raised kind _ => kind
  | .rejected _ => "ValidationError"
  | .missingKey _ => "KeyError"
  | .noValidator _ => "AttributeError"
  | .unhashable _ | .noOutcome _ | .noOptions _ | .notCallable _ | .parameterTaken _ _
  | .levelType _ => "TypeError"
  | .pattern fault => fault.kind
  | .unknownLevel _ | .tooManyDigitsRead _ => "ValueError"
  | .tooLargeForFloat => "OverflowError"
  | .unpairedSurrogate _ => "UnicodeEncodeError"
  | .text .tooDeep => "RecursionError"
  | .text .tooManyDigits => "ValueError"

def display : Fault → Except TextFault String
  | .raised kind message => .ok (exceptionText kind message)
  | .rejected failure => failure.text
  | .missingKey key => key.notationText
  | .unhashable typeName => .ok ("unhashable type: '" ++ typeName ++ "'")
  | .noOutcome typeName => .ok ("Transform must return Ok or Err, got " ++ typeName)
  | .noOptions typeName => .ok ("Expected LooseOptions or mapping, got " ++ typeName)
  | .noValidator typeName => .ok ("'" ++ typeName ++ "' object has no attribute 'validate'")
  | .notCallable typeName => .ok ("'" ++ typeName ++ "' object is not callable")
  | .parameterTaken function name =>
    .ok (function ++ "() got multiple values for argument '" ++ name ++ "'")
  | .pattern (.text fault) => .ok (textMessage fault)
  | .pattern fault => .ok fault.message
  | .unknownLevel notation_ => .ok ("Unknown level: " ++ notation_)
  | .levelType notation_ => .ok ("Level not an integer or a valid string: " ++ notation_)
  | .tooLargeForFloat => .ok "int too large to convert to float"
  | .tooManyDigitsRead digits => .ok (tooManyDigitsReadMessage digits)
  | .unpairedSurrogate shown => .ok (unpairedSurrogateMessage shown)
  | .text fault => .ok (textMessage fault)

def ofKey : Value.KeyFault → Fault
  | .unhashable typeName => .unhashable typeName
  | .tooDeep => .text .tooDeep

def isValueError (fault : Fault) : Bool :=
  ["ValueError", "UnicodeError", "UnicodeEncodeError", "UnicodeDecodeError",
    "UnicodeTranslateError", "JSONDecodeError", "TOMLDecodeError"].contains fault.kind

def summary (fault : Fault) : Except TextFault String := do
  let shown ← fault.display
  .ok (if shown.isEmpty then fault.kind else shown)

end Fault
end TolerantValidation
