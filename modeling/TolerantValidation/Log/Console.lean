import TolerantValidation.Log.Entry
import TolerantValidation.Log.Line
import TolerantValidation.Value.Display

/-!
Lines for a console: time, level, event and logger in columns, and the other values sorted by name,
in colours.
-/

namespace TolerantValidation.Log.Console

def sequence (number : Nat) : String := "\x1b[" ++ toString number ++ "m"

def reset : String := sequence 0
def bright : String := sequence 1
def dim : String := sequence 2
def red : String := sequence 31
def green : String := sequence 32
def yellow : String := sequence 33
def blue : String := sequence 34
def magenta : String := sequence 35
def cyan : String := sequence 36

def levelColour : Level → String
  | .debug | .info => green
  | .warning => yellow
  | .error | .critical => red

def padded (width : Nat) (text : String) : String :=
  text ++ String.ofList (List.replicate (width - text.length) ' ')

def needsQuotes (character : Char) : Bool :=
  " \t=\r\n\"'".toList.contains character

def valueText (value : Value) : Except TextFault String :=
  match value with
  | .text characters =>
    .ok (if characters.toList.any needsQuotes then String.ofList (Text.quoted characters)
      else characters)
  | _ => value.notationText

def fieldText (field : String × Value) : Except TextFault String := do
  .ok (cyan ++ field.1 ++ reset ++ "=" ++ magenta ++ (← valueText field.2) ++ reset)

def loggerText (name : String) : String :=
  "[" ++ reset ++ bright ++ blue ++ name ++ reset ++ "]" ++ reset

def columns (timestamp : String) (entry : Entry) : List String :=
  [dim ++ timestamp ++ reset,
    "[" ++ levelColour entry.level ++ bright ++ padded 9 entry.level.name ++ reset ++ "]",
    bright ++ padded 30 entry.event ++ reset,
    loggerText entry.logger]

def placedFields : List String :=
  ["timestamp", "level", "event", "logger", "logger_name", "stack", "exception"]

def below? (name : String) (fields : Named Value) : Except LineFault (Option String) :=
  match fields.lookup name with
  | none | some .null => .ok none
  | some (.text characters) => .ok (some characters)
  | some _ => .error .notShown

def appendix (fields : Named Value) : Except LineFault String := do
  match ← below? "stack" fields, ← below? "exception" fields with
  | none, none => .ok ""
  | some stack, none => .ok ("\n" ++ stack)
  | none, some error => .ok ("\n" ++ error)
  | some stack, some error =>
    let rule := String.ofList (List.replicate 79 '=')
    .ok ("\n" ++ stack ++ "\n\n" ++ rule ++ "\n\n" ++ error)

def line (timestamp : String) (entry : Entry) (fields : Named Value) : Except LineFault String := do
  let secondLogger ←
    match fields.lookup "logger_name" with
    | none => pure []
    | some name => do pure [loggerText (← name.display.mapError .ofText)]
  let others := Named.without placedFields fields
  let sorted := others.mergeSort fun left right => left.1 ≤ right.1
  let shown ← (sorted.mapM fieldText).mapError .ofText
  .ok (" ".intercalate (columns timestamp entry ++ secondLogger ++ shown) ++ (← appendix fields))

end TolerantValidation.Log.Console
