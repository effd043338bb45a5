import TolerantValidation.Effect
import TolerantValidation.Text.Digit

/-!
Shapes of records: named fields with types, bounds and defaults, and the faults of fields that do
not fit.
-/

namespace TolerantValidation.Record

inductive FieldType where
  | anything
  | text (least greatest : Option Nat)
  | whole (least greatest : Option Int)
  | real
  | flag
  | listOf (item : FieldType)
  | optional (inner : FieldType)
  | record (name : String) (fields : List (String × FieldType × Option Value))
  /-- A function of the caller first, then the inner type. -/
  | after (step : Value → Run Value) (inner : FieldType)

inductive FieldFault where
  | missing
  | textType
  | textUnicode
  | textTooShort (least : Nat)
  | textTooLong (greatest : Nat)
  | wholeType
  | wholeParsing
  | wholeParsingSize
  | wholeFromFraction
  | finite
  | realType
  | realParsing
  | flagType
  | flagParsing
  | listType
  | recordType (name : String)
  | below (least : Int)
  | above (greatest : Int)
  | raised (message : String)
  | asserted (message : String)
deriving DecidableEq

namespace FieldFault

def name : FieldFault → String
  | .missing => "missing"
  | .textType => "string_type"
  | .textUnicode => "string_unicode"
  | .textTooShort _ => "string_too_short"
  | .textTooLong _ => "string_too_long"
  | .wholeType => "int_type"
  | .wholeParsing => "int_parsing"
  | .wholeParsingSize => "int_parsing_size"
  | .wholeFromFraction => "int_from_float"
  | .finite => "finite_number"
  | .realType => "float_type"
  | .realParsing => "float_parsing"
  | .flagType => "bool_type"
  | .flagParsing => "bool_parsing"
  | .listType => "list_type"
  | .recordType _ => "model_type"
  | .below _ => "greater_than_equal"
  | .above _ => "less_than_equal"
  | .raised _ => "value_error"
  | .asserted _ => "assertion_error"

def characters (count : Nat) : String :=
  toString count ++ (if count = 1 then " character" else " characters")

def message : FieldFault → String
  | .missing => "Field required"
  | .textType => "Input should be a valid string"
  | .textUnicode =>
    "Input should be a valid string, unable to parse raw data as a unicode string"
  | .textTooShort least => "String should have at least " ++ characters least
  | .textTooLong greatest => "String should have at most " ++ characters greatest
  | .wholeType => "Input should be a valid integer"
  | .wholeParsing => "Input should be a valid integer, unable to parse string as an integer"
  | .wholeParsingSize => "Unable to parse input string as an integer, exceeded maximum size"
  | .wholeFromFraction => "Input should be a valid integer, got a number with a fractional part"
  | .finite => "Input should be a finite number"
  | .realType => "Input should be a valid number"
  | .realParsing => "Input should be a valid number, unable to parse string as a number"
  | .flagType => "Input should be a valid boolean"
  | .flagParsing => "Input should be a valid boolean, unable to interpret input"
  | .listType => "Input should be a valid list"
  | .recordType name => "Input should be a valid dictionary or instance of " ++ name
  | .below least => "Input should be greater than or equal to " ++ toString least
  | .above greatest => "Input should be less than or equal to " ++ toString greatest
  | .raised message => "Value error, " ++ message
  | .asserted message => "Assertion failed, " ++ message

/-- What a fault of the caller's function says about the field. Only errors of values and failed
assertions say something, in a text that can be written in octets; any other fault is raised. -/
def ofFault (fault : Fault) : Run FieldFault := do
  let said (kind : String → FieldFault) : Run FieldFault := do
    let text ← Run.ofText fault.display
    if text.toList.any Text.isUnpairedSurrogate then throw (.unpairedSurrogate text)
    else pure (kind text)
  if fault.isValueError then said .raised
  else if fault.kind = "AssertionError" then said .asserted
  else throw fault

end FieldFault

structure FieldError where
  path : List Value
  fault : FieldFault

namespace FieldError

def below (segment : Value) (error : FieldError) : FieldError :=
  { error with path := segment :: error.path }

end FieldError

def issueOfReport (name message : String) (path : List Value) : Issue :=
  { code := if name.endsWith "_type" || name == "missing" then .invalidType else .invalidValue
    message, path }

def FieldError.toIssue (error : FieldError) : Issue :=
  issueOfReport error.fault.name error.fault.message error.path

end TolerantValidation.Record
