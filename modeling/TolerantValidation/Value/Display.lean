import TolerantValidation.Value.Text

/-!
The display of a value: what a message shows in place of the notation. A text shows itself, dates
and times their ISO form, an error its message. Here too are paths, which display their segments,
and failures, which display the path of their only issue.
-/

namespace TolerantValidation

def exceptionText (kind : String) (message : Option String) : String :=
  match message with
  | none => ""
  | some message => if kind = "KeyError" then String.ofList (Text.quoted message) else message

namespace Value

/-- How a path shows one segment: positions in brackets, other segments after a point. Truth values
count as positions. -/
def segmentText (display : Value → Except TextFault String) (isFirst : Bool) (segment : Value) :
    Except TextFault String :=
  match segment with
  | .int _ | .bool _ => do .ok ("[" ++ (← display segment) ++ "]")
  | _ => do
    let shown ← display segment
    .ok (if isFirst then shown else "." ++ shown)

def pathTextBy (display : Value → Except TextFault String) :
    List Value → Except TextFault String
  | [] => .ok "$"
  | first :: rest => do
    let head ← segmentText display true first
    let tail ← rest.mapM (segmentText display false)
    .ok (head ++ String.join tail)

def failureTextBy (display : Value → Except TextFault String) (failure : Failure) :
    Except TextFault String :=
  match failure.issues with
  | [] => .ok failure.message
  | [only] => do .ok ((← pathTextBy display only.path) ++ ": " ++ only.message)
  | several => .ok (failure.message ++ " (" ++ toString several.length ++ " issues)")

def displayWithin : Nat → Value → Except TextFault String
  | 0, _ => .error .tooDeep
  | fuel + 1, value =>
    match value with
    | .text characters => .ok characters
    | .dateTime moment => .ok (String.ofList (Iso.dateTimeText ' ' moment))
    | .date day => .ok (String.ofList (Iso.dateText day))
    | .time clock offset => .ok (String.ofList (Iso.clockText clock offset))
    | .exception kind message _ => .ok (exceptionText kind message)
    | .failure failed => failureTextBy (displayWithin fuel) failed
    | .record _ fields => do
      let texts ← fields.mapM fun field => do
        .ok (field.1.toList ++ '=' :: (← notationWithin writingLimit [] field.2))
      .ok (String.ofList (separated " " texts))
    | _ => value.notationText

def display (value : Value) : Except TextFault String :=
  displayWithin writingLimit value

def pathText (path : List Value) : Except TextFault String :=
  pathTextBy display path

end Value
end TolerantValidation
