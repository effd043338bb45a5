import TolerantValidation.Log.Pattern.Fault
import TolerantValidation.Number.Fixed
import TolerantValidation.Number.Reading
import TolerantValidation.Text.Units
import TolerantValidation.Value.Entries

/-!
Patterns: texts with directives that arguments replace. A directive is a percent sign, perhaps a
name in parentheses, flags, a width, a precision and a letter that says how the argument is shown.
Arguments are taken by position, or by name from a mapping.
-/

namespace TolerantValidation.Log

inductive Arguments where
  | positional (unused : List Value)
  /-- A mapping, and the value that is next if it has not been used: that of the last name, or at
  the beginning the mapping itself. -/
  | named (entries : List (Value × Value)) (next : Option Value)

structure Directive where
  leftAligned : Bool := false
  signed : Bool := false
  blankSigned : Bool := false
  alternate : Bool := false
  zeroFilled : Bool := false
  width : Option Nat := none
  precision : Option Nat := none
  letter : Char

namespace Pattern

def takeArgument : Arguments → Except PatternFault (Value × Arguments)
  | .positional [] => .error .tooFewArguments
  | .positional (argument :: unused) => .ok (argument, .positional unused)
  | .named _ none => .error .tooFewArguments
  | .named entries (some value) => .ok (value, .named entries none)

/-! ### Reading a directive -/

def splitName (depth : Nat) : List Char → Option (List Char × List Char)
  | [] => none
  | ')' :: rest =>
    match depth with
    | 0 => some ([], rest)
    | depth + 1 => (splitName depth rest).map fun (name, rest) => (')' :: name, rest)
  | '(' :: rest => (splitName (depth + 1) rest).map fun (name, rest) => ('(' :: name, rest)
  | character :: rest => (splitName depth rest).map fun (name, rest) => (character :: name, rest)

def readName (pattern : List Char) (arguments : Arguments) :
    Except PatternFault (List Char × Arguments) :=
  match pattern, arguments with
  | '(' :: _, .positional _ => .error .noMapping
  | '(' :: rest, .named entries _ =>
    match splitName 0 rest with
    | none => .error .unclosedName
    | some (name, rest) =>
      match Value.get? (.text (String.ofList name)) entries with
      | some value => .ok (rest, .named entries (some value))
      | none => .error (.missingName (String.ofList name))
  | _, _ => .ok (pattern, arguments)

def isFlag (character : Char) : Bool :=
  "-+ #0".toList.contains character

def sizeOf? : Value → Option Int
  | .int whole => some whole
  | .bool flag => some (if flag then 1 else 0)
  | _ => none

inductive Size where
  | absent
  | argument
  | digits (number : Nat)

def splitSize (pattern : List Char) : Size × List Char :=
  match pattern with
  | '*' :: rest => (.argument, rest)
  | _ =>
    let digits := pattern.takeWhile Text.isAsciiDigit
    if digits.isEmpty then (.absent, pattern)
    else (.digits (Number.ofDecimalDigits digits), pattern.dropWhile Text.isAsciiDigit)

def widthLimit : Nat := Nat.pow 2 63 - 1

def precisionLimit : Nat := Nat.pow 2 31 - 1

def takeSize (limit : Nat) (machineType : String) (arguments : Arguments) :
    Except PatternFault (Int × Arguments) := do
  let (value, arguments) ← takeArgument arguments
  match sizeOf? value with
  | none => .error .sizeType
  | some size =>
    if -(limit : Int) - 1 ≤ size ∧ size ≤ limit then .ok (size, arguments)
    else .error (.sizeOutOfRange machineType)

def readWidth (directive : Directive) (pattern : List Char) (arguments : Arguments) :
    Except PatternFault (Directive × List Char × Arguments) := do
  match splitSize pattern with
  | (.absent, rest) => .ok (directive, rest, arguments)
  | (.digits number, rest) =>
    if number > widthLimit then .error .widthTooBig
    else .ok ({ directive with width := some number }, rest, arguments)
  | (.argument, rest) =>
    let (size, arguments) ← takeSize widthLimit "ssize_t" arguments
    .ok
      ({ directive with
          width := some size.natAbs, leftAligned := directive.leftAligned || decide (size < 0) },
        rest, arguments)

def readPrecision (directive : Directive) (pattern : List Char) (arguments : Arguments) :
    Except PatternFault (Directive × List Char × Arguments) := do
  match pattern with
  | '.' :: rest =>
    match splitSize rest with
    | (.absent, rest) => .ok ({ directive with precision := some 0 }, rest, arguments)
    | (.digits number, rest) =>
      if number > precisionLimit then .error .precisionTooBig
      else .ok ({ directive with precision := some number }, rest, arguments)
    | (.argument, rest) =>
      let (size, arguments) ← takeSize precisionLimit "int" arguments
      .ok ({ directive with precision := some size.toNat }, rest, arguments)
  | _ => .ok (directive, pattern, arguments)

def dropSizeLetter : List Char → List Char
  | 'h' :: rest => rest
  | 'l' :: rest => rest
  | 'L' :: rest => rest
  | pattern => pattern

def readDirective (pattern : List Char) (arguments : Arguments) :
    Except PatternFault (Directive × List Char × Arguments) := do
  let (pattern, arguments) ← readName pattern arguments
  let flags := pattern.takeWhile isFlag
  let directive : Directive :=
    { leftAligned := flags.contains '-', signed := flags.contains '+'
      blankSigned := flags.contains ' ', alternate := flags.contains '#'
      zeroFilled := flags.contains '0', letter := '%' }
  let (directive, rest, arguments) ← readWidth directive (pattern.dropWhile isFlag) arguments
  let (directive, rest, arguments) ← readPrecision directive rest arguments
  match dropSizeLetter rest with
  | letter :: rest => .ok ({ directive with letter }, rest, arguments)
  | [] => .error .incomplete

/-! ### Showing an argument -/

def fullTypeName (value : Value) : String :=
  match value with
  | .dateTime _ | .date _ | .time _ _ => "datetime." ++ value.typeName
  | _ => value.typeName

def wholeArgument (letter : Char) (value : Value) : Except PatternFault Int :=
  let onlyWhole := letter == 'o' || letter == 'x' || letter == 'X'
  match sizeOf? value, value with
  | some whole, _ => .ok whole
  | none, .float number =>
    if onlyWhole then .error (.wholeRequired letter "float")
    else if number.isNotANumber then .error .notANumberAsWhole
    else
      match Binary64.truncate? number with
      | some whole => .ok whole
      | none => .error .infinityAsWhole
  | none, _ =>
    .error (if onlyWhole then .wholeRequired letter (fullTypeName value)
      else .numberRequired letter (fullTypeName value))

def wholeDigits (letter : Char) (whole : Int) : Except PatternFault (List Char) :=
  match letter with
  | 'o' => .ok (Nat.toDigits 8 whole.natAbs)
  | 'x' => .ok (Nat.toDigits 16 whole.natAbs)
  | 'X' => .ok ((Nat.toDigits 16 whole.natAbs).map Char.toUpper)
  | _ => (wholeText whole.natAbs).mapError .text

def baseMark (directive : Directive) : List Char :=
  if directive.alternate && "oxX".toList.contains directive.letter then ['0', directive.letter]
  else []

structure Shown where
  sign : List Char := []
  mark : List Char := []
  body : List Char
  isNumber : Bool := true

def signOf (directive : Directive) (negative : Bool) : List Char :=
  if negative then ['-']
  else if directive.signed then ['+']
  else if directive.blankSigned then [' ']
  else []

def showWhole (directive : Directive) (value : Value) : Except PatternFault Shown := do
  let whole ← wholeArgument directive.letter value
  let digits ← wholeDigits directive.letter whole
  .ok
    { sign := signOf directive (decide (whole < 0)), mark := baseMark directive
      body := List.replicate (directive.precision.getD 0 - digits.length) '0' ++ digits }

def realArgument (value : Value) : Except PatternFault Binary64 :=
  match value, sizeOf? value with
  | .float number, _ => .ok number
  | _, some whole =>
    match Binary64.ofInt? whole with
    | some number => .ok number
    | none => .error .tooLargeForFloat
  | _, none => .error (.realRequired (fullTypeName value))

def showReal (directive : Directive) (value : Value) : Except PatternFault Shown := do
  let number ← realArgument value
  let precision : Binary64.Precision :=
    match directive.letter.toLower with
    | 'f' => .fixed
    | 'e' => .exponential
    | _ => .general
  let text := Binary64.precise precision directive.alternate (directive.precision.getD 6) number
  let text := if directive.letter.isUpper then text.map Char.toUpper else text
  match text with
  | '-' :: body => .ok { sign := ['-'], body }
  | body => .ok { sign := signOf directive false, body }

def asciiText (text : List Char) : List Char :=
  text.flatMap fun character =>
    if character.toNat < 0x80 then [character] else Text.codeEscape (Text.codePoint character)

def showText (directive : Directive) (value : Value) : Except PatternFault Shown := do
  let text ←
    match directive.letter with
    | 's' => value.display.mapError .text
    | _ => value.notationText.mapError .text
  let text := if directive.letter = 'a' then asciiText text.toList else text.toList
  .ok
    { body := (directive.precision.map fun length => text.take length).getD text
      isNumber := false }

def showCharacter (value : Value) : Except PatternFault Shown :=
  match value, sizeOf? value with
  | .text characters, _ =>
    match characters.toList with
    | [character] => .ok { body := [character], isNumber := false }
    | _ => .error .characterRequired
  | _, some code =>
    if 0 ≤ code ∧ code < 0x110000 then
      .ok { body := [Text.unitCharacter code.toNat], isNumber := false }
    else .error .noSuchCharacter
  | _, none => .error .characterRequired

def fill (directive : Directive) (shown : Shown) : List Char :=
  let marks := shown.sign ++ shown.mark
  let missing := directive.width.getD 0 - (marks.length + shown.body.length)
  if directive.leftAligned then marks ++ shown.body ++ List.replicate missing ' '
  else if directive.zeroFilled && shown.isNumber then
    marks ++ List.replicate missing '0' ++ shown.body
  else List.replicate missing ' ' ++ marks ++ shown.body

def showArgument (position : Nat) (directive : Directive) (value : Value) :
    Except PatternFault (List Char) := do
  let letter := directive.letter
  let shown ←
    if "sra".toList.contains letter then showText directive value
    else if "diuoxX".toList.contains letter then showWhole directive value
    else if "eEfFgG".toList.contains letter then showReal directive value
    else if letter = 'c' then showCharacter value
    else .error (.unknownDirective letter position)
  .ok (fill directive shown)

def hasUnused : Arguments → Bool
  | .positional unused => !unused.isEmpty
  | .named _ _ => false

/-- Replaces the directives of the rest of a pattern of the given length. The pieces done are given
in reverse. -/
def renderFrom (length : Nat) :
    Nat → List (List Char) → Arguments → List Char → Except PatternFault (List Char)
  | 0, _, _, _ => .error .incomplete
  | fuel + 1, done, arguments, pattern =>
    let done := (pattern.takeWhile (· ≠ '%')) :: done
    match pattern.dropWhile (· ≠ '%') with
    | [] =>
      if hasUnused arguments then .error .unusedArguments else .ok done.reverse.flatten
    | _ :: '%' :: rest => renderFrom length fuel (['%'] :: done) arguments rest
    | _ :: rest => do
      let (directive, rest, arguments) ← readDirective rest arguments
      if directive.letter = '%' then renderFrom length fuel (['%'] :: done) arguments rest
      else
        let (value, arguments) ← takeArgument arguments
        let shown ← showArgument (length - rest.length - 1) directive value
        renderFrom length fuel (shown :: done) arguments rest

def render (pattern : String) (arguments : Arguments) : Except PatternFault String :=
  let characters := pattern.toList
  (renderFrom characters.length (characters.length + 1) [] arguments characters).map String.ofList

/-- The arguments of an event: a single mapping that is not empty gives them by name. -/
def argumentsOf (values : List Value) : Arguments :=
  match values with
  | [only] =>
    match only.entries? with
    | some (entry :: entries) => .named (entry :: entries) (some only)
    | _ => .positional values
  | _ => .positional values

end Pattern
end TolerantValidation.Log
