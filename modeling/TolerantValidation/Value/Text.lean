import TolerantValidation.Value.Basic
import TolerantValidation.Number.Shortest
import TolerantValidation.Calendar.Iso
import TolerantValidation.Text.Quoted

/-!
The text of a value: its notation, which shows texts in quotes and names types, and its display,
which differs from the notation for texts, dates and errors. A whole number of more than 4300 digits
has no text, and neither has a value that nests too deep. A container within itself is shown as
three dots.
-/

namespace TolerantValidation

inductive TextFault where
  | tooDeep
  | tooManyDigits
deriving DecidableEq

def digitLimit : Nat := 4300

def wholeText (whole : Int) : Except TextFault (List Char) :=
  if whole.natAbs < Nat.pow 10 digitLimit then
    .ok ((if whole < 0 then ['-'] else []) ++ Nat.toDigits 10 whole.natAbs)
  else .error .tooManyDigits

namespace Value

def separated (separator : String) : List (List Char) → List Char
  | [] => []
  | [only] => only
  | first :: rest => first ++ separator.toList ++ separated separator rest

def clockArguments (time : TimeOfDay) : List Nat :=
  if time.microsecond ≠ 0 then [time.hour, time.minute, time.second, time.microsecond]
  else if time.second ≠ 0 then [time.hour, time.minute, time.second]
  else [time.hour, time.minute]

def offsetNotation (offset : Offset) : List Char :=
  if offset.microseconds = 0 then "datetime.timezone.utc".toList
  else
    let days := offset.microseconds.fdiv dayLength
    let rest := (offset.microseconds.fmod dayLength).toNat
    let parts : List (String × Int) :=
      [("days", days), ("seconds", (rest / 1000000 : Nat)),
        ("microseconds", (rest % 1000000 : Nat))]
    let shown := (parts.filter (·.2 ≠ 0)).map fun part => (part.1 ++ "=" ++ toString part.2).toList
    "datetime.timezone(datetime.timedelta(".toList ++ separated ", " shown ++ "))".toList

def callNotation (name : String) (arguments : List Nat) (offset : Option Offset) : List Char :=
  let numbers := arguments.map fun argument => Nat.toDigits 10 argument
  let zone := (offset.map fun known => "tzinfo=".toList ++ offsetNotation known).toList
  name.toList ++ '(' :: separated ", " (numbers ++ zone) ++ [')']

def dateArguments (date : Date) : List Nat :=
  [date.year, date.month, date.day]

def cycleMark : Value → List Char := fun value =>
  match value.view with
  | .collection .list _ => "[...]".toList
  | .collection .tuple _ => "(...)".toList
  | .collection .set _ => "set(...)".toList
  | .collection .frozenSet _ => "frozenset(...)".toList
  | _ => "\x7b...\x7d".toList

def bracketed (kind : CollectionKind) (items : List (List Char)) : List Char :=
  let inner := separated ", " items
  match kind with
  | .list => '[' :: inner ++ [']']
  | .tuple => if items.length = 1 then '(' :: inner ++ [',', ')'] else '(' :: inner ++ [')']
  | .set => if items.isEmpty then "set()".toList else '{' :: inner ++ ['}']
  | .frozenSet =>
    if items.isEmpty then "frozenset()".toList
    else "frozenset(\x7b".toList ++ inner ++ "\x7d)".toList

def cellNumber? : Value → Option Nat
  | .knot _ entry => some entry
  | _ => none

def Held.trail (container : Value) (around : List Nat) (held : Held) : List Nat :=
  if held.inside then (container.cellNumber?.toList) ++ around else []

def isAround (around : List Nat) (value : Value) : Bool :=
  match value.cellNumber? with
  | some entry => around.contains entry
  | none => false

def issueNotation (failed : Issue) (segments : List (List Char)) : List Char :=
  "Issue(code=<IssueCode.".toList ++ (IssueCode.label failed.code).toList ++ ": ".toList ++
    Text.quoted (IssueCode.text failed.code) ++ ">, message=".toList ++
    Text.quoted failed.message ++ ", path=".toList ++ bracketed .tuple segments ++
    ", fatal=".toList ++ (if failed.fatal then "True" else "False").toList ++ [')']

def writingLimit : Nat := 990

/-- The notation of a value inside the given containers of its knot. -/
def notationWithin : Nat → List Nat → Value → Except TextFault (List Char)
  | 0, _, _ => .error .tooDeep
  | fuel + 1, around, value =>
    if isAround around value then .ok (cycleMark value)
    else
      match value.view with
      | .collection kind items => do
        let texts ← items.mapM fun held =>
          notationWithin fuel (held.trail value around) held.value
        .ok (bracketed kind texts)
      | .mapping entries => do
        let texts ← entries.mapM fun entry => do
          let key ← notationWithin fuel [] entry.1
          let item ← notationWithin fuel (entry.2.trail value around) entry.2.value
          .ok (key ++ ": ".toList ++ item)
        .ok ('{' :: separated ", " texts ++ ['}'])
      | .atom =>
        match value with
        | .bool flag => .ok (if flag then "True" else "False").toList
        | .int whole => wholeText whole
        | .float number => .ok number.text.toList
        | .text characters => .ok (Text.quoted characters)
        | .bytes octets => .ok (Text.quotedOctets octets)
        | .dateTime moment =>
          .ok (callNotation "datetime.datetime"
            (dateArguments moment.date ++ clockArguments moment.time) moment.offset)
        | .date day => .ok (callNotation "datetime.date" (dateArguments day) none)
        | .time clock offset => .ok (callNotation "datetime.time" (clockArguments clock) offset)
        | .record name fields => do
          let texts ← fields.mapM fun field => do
            .ok (field.1.toList ++ '=' :: (← notationWithin fuel [] field.2))
          .ok (name.toList ++ '(' :: separated ", " texts ++ [')'])
        | .exception kind message _ =>
          .ok (kind.toList ++ '(' :: (message.map Text.quoted).getD [] ++ [')'])
        | .issue failed => do
          .ok (issueNotation failed (← failed.path.mapM (notationWithin fuel [])))
        | .failure failed => do
          let texts ← failed.issues.mapM fun issue => do
            .ok (issueNotation issue (← issue.path.mapM (notationWithin fuel [])))
          .ok ("ValidationError(issues=".toList ++ bracketed .list texts ++ ", message=".toList ++
            Text.quoted failed.message ++ [')'])
        | _ => .ok "None".toList

def notationText (value : Value) : Except TextFault String :=
  (notationWithin writingLimit [] value).map String.ofList

end Value
end TolerantValidation
