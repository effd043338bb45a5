import TolerantValidation.Json.Reader
import TolerantValidation.Text.Letter

/-!
JSON5: JSON with comments, trailing commas, unquoted names, single quotes and more forms of numbers.
The reader goes through the text from left to right.
-/

namespace TolerantValidation.Json5

inductive Fault where
  | malformed
  | tooDeep
deriving DecidableEq

def isLineEnd (character : Char) : Bool :=
  character == '\n' || character == '\r' || character == '\u2028' || character == '\u2029'

def isSpace (character : Char) : Bool :=
  isLineEnd character || character == ' ' || character == '\t' || character == '\x0B' ||
    character == '\x0C' || character == '\uFEFF' ||
    (Text.isSpace character && character != '\x85')

def afterBlockComment : List Char → Option (List Char)
  | [] => none
  | '*' :: '/' :: rest => some rest
  | _ :: rest => afterBlockComment rest

def skipSpaces : Nat → List Char → List Char
  | 0, characters => characters
  | fuel + 1, characters =>
    match characters with
    | '/' :: '/' :: rest => skipSpaces fuel (rest.dropWhile fun character => !isLineEnd character)
    | '/' :: '*' :: rest =>
      match afterBlockComment rest with
      | some rest => skipSpaces fuel rest
      | none => characters
    | character :: rest => if isSpace character then skipSpaces fuel rest else characters
    | [] => []

def skip (characters : List Char) : List Char :=
  skipSpaces (characters.length + 1) characters

/-- The character of an escape with one character. Line ends, digits and the marks of longer escapes
have none; any other character stands for itself. -/
def shortEscape? (character : Char) : Option Char :=
  match character with
  | 'b' => some '\x08'
  | 'f' => some '\x0C'
  | 'n' => some '\n'
  | 'r' => some '\r'
  | 't' => some '\t'
  | 'v' => some '\x0B'
  | other =>
    if other = 'x' ∨ other = 'u' ∨ Text.isAsciiDigit other ∨ isLineEnd other then none
    else some other

def hexPair? (first second : Char) : Option Nat := do
  some ((← Text.hexDigitValue? first) * 16 + (← Text.hexDigitValue? second))

def readUnits (quote : Char) : List Nat → List Char → Option (List Nat × List Char)
  | _, [] => none
  | done, '\\' :: '\r' :: '\n' :: rest => readUnits quote done rest
  | done, '\\' :: '0' :: rest =>
    if (rest.head?.map Text.isAsciiDigit).getD false then none
    else readUnits quote (0 :: done) rest
  | done, '\\' :: 'x' :: a :: b :: rest =>
    match hexPair? a b with
    | some unit => readUnits quote (unit :: done) rest
    | none => none
  | done, '\\' :: 'u' :: a :: b :: c :: d :: rest =>
    match Text.hexUnit? a b c d with
    | some unit => readUnits quote (unit :: done) rest
    | none => none
  | done, '\\' :: escape :: rest =>
    if isLineEnd escape then readUnits quote done rest
    else
      match shortEscape? escape with
      | some character => readUnits quote (character.toNat :: done) rest
      | none => none
  | done, character :: rest =>
    if character = quote then some (done.reverse, rest)
    else if character = '\\' ∨ character = '\n' ∨ character = '\r' then none
    else readUnits quote (character.toNat :: done) rest

theorem readUnits_quote {done : List Nat} {rest : List Char} :
    readUnits '"' done ('"' :: rest) = some (done.reverse, rest) := by
  rw [readUnits]
  · rw [if_pos rfl]
  all_goals nofun

def readString (quote : Char) (characters : List Char) : Option (String × List Char) :=
  (readUnits quote [] characters).map fun read => (String.ofList (Text.joinUnits read.1), read.2)

def isNameStart (character : Char) : Bool :=
  character == '$' || character == '_' || Text.isLetter character

def isNamePart (character : Char) : Bool :=
  isNameStart character || Text.isNameMark character || character == '\u200C' ||
    character == '\u200D'

def readNameUnits (isFirst : Bool) : List Nat → List Char → List Nat × List Char
  | done, '\\' :: 'u' :: a :: b :: c :: d :: rest =>
    match Text.hexUnit? a b c d with
    | some unit => readNameUnits false (unit :: done) rest
    | none => (done.reverse, '\\' :: 'u' :: a :: b :: c :: d :: rest)
  | done, character :: rest =>
    if (if isFirst then isNameStart character else isNamePart character) then
      readNameUnits false (character.toNat :: done) rest
    else (done.reverse, character :: rest)
  | done, [] => (done.reverse, [])

def readKey (characters : List Char) : Option (String × List Char) :=
  match characters with
  | '"' :: rest => readString '"' rest
  | '\'' :: rest => readString '\'' rest
  | _ =>
    let (units, rest) := readNameUnits true [] characters
    if units.isEmpty then none else some (String.ofList (Text.joinUnits units), rest)

def splitDecimal (characters : List Char) : List Char × List Char :=
  let (whole, rest) := Json.splitWhole characters
  let (fraction, rest) :=
    match rest with
    | '.' :: tail =>
      ('.' :: tail.takeWhile Text.isAsciiDigit, tail.dropWhile Text.isAsciiDigit)
    | _ => ([], rest)
  let (exponent, rest) :=
    match rest with
    | mark :: tail =>
      if (mark = 'e' ∨ mark = 'E') ∧ !(whole.isEmpty && fraction.isEmpty) then
        match tail with
        | '+' :: digits =>
          (['e', '+'] ++ digits.takeWhile Text.isAsciiDigit, digits.dropWhile Text.isAsciiDigit)
        | '-' :: digits =>
          (['e', '-'] ++ digits.takeWhile Text.isAsciiDigit, digits.dropWhile Text.isAsciiDigit)
        | digits => ('e' :: digits.takeWhile Text.isAsciiDigit, digits.dropWhile Text.isAsciiDigit)
      else ([], rest)
    | [] => ([], [])
  (whole ++ fraction ++ exponent, rest)

def readDecimal (negative : Bool) (characters : List Char) : Option (Value × List Char) :=
  let (text, rest) := splitDecimal characters
  if !text.isEmpty && text.all Text.isAsciiDigit then
    -- A leading zero stands alone, so digits after it do not belong to the number.
    if text.length > digitLimit then none
    else some (.int (Number.signed negative (Number.ofDecimalDigits text)), rest)
  else
    (Number.readDecimal? text).map fun parts =>
      (.float { parts with negative }.toBinary64, rest)

def readNumber (negative : Bool) (characters : List Char) : Option (Value × List Char) :=
  match characters with
  | 'I' :: 'n' :: 'f' :: 'i' :: 'n' :: 'i' :: 't' :: 'y' :: rest =>
    some (.float (.infinity negative), rest)
  | 'N' :: 'a' :: 'N' :: rest => some (.float .notANumber, rest)
  | '0' :: mark :: rest =>
    let digits := rest.takeWhile Text.isHexDigit
    if (mark = 'x' ∨ mark = 'X') ∧ !digits.isEmpty then
      some (.int (Number.signed negative (Number.ofHexDigits digits)),
        rest.dropWhile Text.isHexDigit)
    else readDecimal negative characters
  | _ => readDecimal negative characters

/-- Reads a value that is neither a string nor a container. A number has at most one sign. -/
def readScalar : List Char → Option (Value × List Char)
  | 'n' :: 'u' :: 'l' :: 'l' :: rest => some (.null, rest)
  | 't' :: 'r' :: 'u' :: 'e' :: rest => some (.bool true, rest)
  | 'f' :: 'a' :: 'l' :: 's' :: 'e' :: rest => some (.bool false, rest)
  | '-' :: rest => readNumber true rest
  | '+' :: rest => readNumber false rest
  | rest => readNumber false rest

mutual

def readValue : Nat → Nat → List Char → Except Fault (Value × List Char)
  | 0, _, _ => .error .tooDeep
  | fuel + 1, depth, characters =>
    let required {Read : Type} (read : Option Read) : Except Fault Read :=
      match read with
      | some found => .ok found
      | none => .error .malformed
    match characters with
    | '"' :: rest => (required (readString '"' rest)).map fun read => (.text read.1, read.2)
    | '\'' :: rest => (required (readString '\'' rest)).map fun read => (.text read.1, read.2)
    | '[' :: rest =>
      match depth with
      | 0 => .error .tooDeep
      | depth + 1 =>
        match skip rest with
        | ']' :: rest => .ok (.list [], rest)
        | rest => readItems fuel depth [] rest
    | '{' :: rest =>
      match depth with
      | 0 => .error .tooDeep
      | depth + 1 =>
        match skip rest with
        | '}' :: rest => .ok (.mapping [], rest)
        | rest => readMembers fuel depth [] rest
    | _ => required (readScalar characters)

def readItems : Nat → Nat → List Value → List Char → Except Fault (Value × List Char)
  | 0, _, _, _ => .error .tooDeep
  | fuel + 1, depth, done, characters =>
    match readValue fuel depth characters with
    | .error fault => .error fault
    | .ok (item, rest) =>
      match skip rest with
      | ']' :: rest => .ok (.list (item :: done).reverse, rest)
      | ',' :: rest =>
        match skip rest with
        | ']' :: rest => .ok (.list (item :: done).reverse, rest)
        | rest => readItems fuel depth (item :: done) rest
      | _ => .error .malformed

def readMembers : Nat → Nat → List (Value × Value) → List Char → Except Fault (Value × List Char)
  | 0, _, _, _ => .error .tooDeep
  | fuel + 1, depth, done, characters =>
    match readKey characters with
    | none => .error .malformed
    | some (key, rest) =>
      match skip rest with
      | ':' :: rest =>
        match readValue fuel depth (skip rest) with
        | .error fault => .error fault
        | .ok (value, rest) =>
          let done := Value.put (.text key) value done
          match skip rest with
          | '}' :: rest => .ok (.mapping done, rest)
          | ',' :: rest =>
            match skip rest with
            | '}' :: rest => .ok (.mapping done, rest)
            | rest => readMembers fuel depth done rest
          | _ => .error .malformed
      | _ => .error .malformed

end

section

variable {fuel depth : Nat} {characters : List Char}

theorem readValue_string {text : String} {rest : List Char}
    (read : readString '"' characters = some (text, rest)) :
    readValue (fuel + 1) depth ('"' :: characters) = .ok (.text text, rest) := by
  rw [readValue, read]
  rfl

theorem readItems_error {done : List Value} {fault : Fault}
    (stopped : readValue fuel depth characters = .error fault) :
    readItems (fuel + 1) depth done characters = .error fault := by
  rw [readItems, stopped]

end

def read (text : String) : Except Fault Value :=
  let characters := skip text.toList
  match readValue (Json.fuelFor characters) Json.depthLimit characters with
  | .error fault => .error fault
  | .ok (value, rest) => if (skip rest).isEmpty then .ok value else .error .malformed

end TolerantValidation.Json5
