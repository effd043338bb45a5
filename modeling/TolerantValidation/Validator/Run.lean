import TolerantValidation.Validator.Collection

/-!
Running a validator on an input. Expected invalid input is answered with a failure. What the
caller's functions raise in a transformation or a check becomes an issue; what sinks and callbacks
raise is a fault of the run.
-/

namespace TolerantValidation.Validator

def raisedIssue (fault : Fault) (fatal : Bool) : Run Issue := do
  let summary ← Run.ofText fault.summary
  pure (.custom summary fatal)

/-- What a message shows of an error that is no issue: the text of a failure, or the display. -/
def errorText : Value → Except TextFault String
  | .failure failure => failure.text
  | error => error.display

def applyStep (step : Value → Run Reply) (value : Value) : Run Verdict := do
  match ← (step value).attempt with
  | .error fault => pure (.refuse (← raisedIssue fault false))
  | .ok (.outcome (.ok changed)) => pure (.ok changed)
  | .ok (.outcome (.err (.issue issue))) => pure (.refuse issue)
  | .ok (.outcome (.err error)) => do
    let message ← Run.ofText (errorText error)
    pure (.refuse (.custom message))
  | .ok (.other value) => throw (.noOutcome value.typeName)

def applyCheck (check : Value → Run Value) (message : String) (code : IssueCode) (fatal : Bool)
    (value : Value) : Run Verdict := do
  match ← (check value).attempt with
  | .error fault => pure (.refuse (← raisedIssue fault fatal))
  | .ok passed =>
    if passed.truthy then pure (.ok value) else pure (.refuse { code, message, fatal })

def run : Validator → Value → Run Verdict
  | .string least greatest, value => pure (checkString least greatest value)
  | .integer, value => pure (checkInteger value)
  | .number, value => pure (checkNumber value)
  | .boolean, value => pure (checkBoolean value)
  | .unknown, value => pure (.ok value)
  | .literal expected, value => checkLiteral expected value
  | .format reader, value => checkFormat reader value
  | .notCircular, value => pure (checkNotCircular value)
  | .model shape strict, value => checkModel shape strict value
  | .transform inner step, value => do
    match ← inner.run value with
    | .err failure => pure (.err failure)
    | .ok accepted => applyStep step accepted
  | .pipe first second, value => do
    match ← first.run value with
    | .err failure => pure (.err failure)
    | .ok accepted => second.run accepted
  | .refine inner check message code fatal, value => do
    match ← inner.run value with
    | .err failure => pure (.err failure)
    | .ok accepted => applyCheck check message code fatal accepted
  | .fallback inner sink, value => do
    match ← inner.run value with
    | .ok accepted => pure (.ok accepted)
    | .err failure =>
      if failure.isFatal then pure (.err failure)
      else do pure (.ok (← sink ⟨failure, value⟩))
  | .array element, value => arrayOf (fun item => element.run item) value
  | .record item key, value => recordOf (fun raw => key.run raw) (fun raw => item.run raw) value
  | .looseArray element onError, value => looseArrayOf (fun item => element.run item) onError value
  | .looseRecord item key onError, value =>
    looseRecordOf (fun raw => key.run raw) (fun raw => item.run raw) onError value

def parse (validator : Validator) (value : Value) : Run Value := do
  match ← validator.run value with
  | .ok accepted => pure accepted
  | .err failure => throw (.rejected failure)

def isValid (validator : Validator) (value : Value) : Run Bool := do
  pure (← validator.run value).isOk

def asStep (validator : Validator) (value : Value) : Run Reply := do
  match ← validator.run value with
  | .ok accepted => pure (.outcome (.ok accepted))
  | .err failure => pure (.outcome (.err (.failure failure)))

end TolerantValidation.Validator
