import TolerantValidation.Value.Text

/-!
Why a document cannot be read. Readers stop at the first fault.
-/

namespace TolerantValidation

inductive DocumentGrammar where
  | json
  | json5
  | toml
  | yaml
deriving DecidableEq

inductive DocumentFault where
  | malformed (grammar : DocumentGrammar)
  | constant (name : String)
  /-- A number or a date that is well formed does not exist or is too long. -/
  | noSuchNumber
  | blankInTimestamp (text : String)
  | malformedTimestamp
  | outsideCalendar
  | unknownFlag
  | emptyNumber
  | noTimestamp
  | notText
  | tooLarge
  | tooDeep
deriving DecidableEq

namespace DocumentFault

def kind : DocumentFault → String
  | .malformed .json => "JSONDecodeError"
  | .malformed .json5 => "ValueError"
  | .malformed .toml => "TOMLDecodeError"
  | .malformed .yaml => "YAMLError"
  | .constant _ | .noSuchNumber | .blankInTimestamp _ | .malformedTimestamp => "ValueError"
  | .outsideCalendar | .tooLarge => "OverflowError"
  | .unknownFlag => "KeyError"
  | .emptyNumber => "IndexError"
  | .noTimestamp => "AttributeError"
  | .notText => "TypeError"
  | .tooDeep => "RecursionError"

def message? : DocumentFault → Option String
  | .constant name => some (name ++ " is not valid JSON")
  | .blankInTimestamp text =>
    some ("Whitespace in ISO 8601 timestamp: " ++ String.ofList (Text.quoted text))
  | _ => none

/-- Whether a reader that tries a second notation goes on after the fault: what nests too deep is
not tried again. -/
def isAboutText : DocumentFault → Bool
  | .malformed _ | .constant _ | .noSuchNumber | .blankInTimestamp _ | .malformedTimestamp => true
  | _ => false

end DocumentFault
end TolerantValidation
