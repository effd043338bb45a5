import TolerantValidation.Number.Reading
import TolerantValidation.Text.Units
import TolerantValidation.Value.Entries
import TolerantValidation.Value.Text

/-!
Strict JSON. The reader goes through the text from left to right and the first fault decides. It
follows the grammar of the standard: four blank characters, no leading zeros, no trailing commas, no
comments. The constants that other dialects add are recognised and refused by name.
-/

namespace TolerantValidation.Json

inductive Fault where
  | malformed
  | constant (name : String)
  | tooManyDigits
  | tooDeep
deriving DecidableEq

def isSpace (character : Char) : Bool :=
  character == ' ' || character == '\t' || character == '\n' || character == '\r'

def skipSpaces (characters : List Char) : List Char :=
  characters.dropWhile isSpace

def shortEscape? : Char → Option Char
  | '"' => some '"'
  | '\\' => some '\\'
  | '/' => some '/'
  | 'b' => some '\x08'
  | 'f' => some '\x0C'
  | 'n' => some '\n'
  | 'r' => some '\r'
  | 't' => some '\t'
  | _ => none

def readString : List Char → List Char → Except Fault (List Char × List Char)
  | _, [] => .error .malformed
  | done, '"' :: rest => .ok (done.reverse, rest)
  | done, '\\' :: 'u' :: a :: b :: c :: d :: '\\' :: 'u' :: e :: f :: g :: h :: rest =>
    match Text.hexUnit? a b c d with
    | none => .error .malformed
    | some unit =>
      if Text.isHighSurrogate unit then
        match Text.hexUnit? e f g h with
        | none => .error .malformed
        | some second =>
          if Text.isLowSurrogate second then
            readString (Text.joinSurrogates unit second :: done) rest
          else
            readString (Text.unitCharacter unit :: done) ('\\' :: 'u' :: e :: f :: g :: h :: rest)
      else readString (Text.unitCharacter unit :: done) ('\\' :: 'u' :: e :: f :: g :: h :: rest)
  | done, '\\' :: 'u' :: a :: b :: c :: d :: rest =>
    match Text.hexUnit? a b c d with
    | none => .error .malformed
    | some unit => readString (Text.unitCharacter unit :: done) rest
  | done, '\\' :: escape :: rest =>
    match shortEscape? escape with
    | some character => readString (character :: done) rest
    | none => .error .malformed
  | done, character :: rest =>
    if character < ' ' ∨ character = '\\' then .error .malformed
    else readString (character :: done) rest
termination_by _ rest => rest.length

theorem readString_quote {done rest : List Char} :
    readString done ('"' :: rest) = .ok (done.reverse, rest) := by
  rw [readString]

def splitFraction (characters : List Char) : Option (List Char) × List Char :=
  match characters with
  | '.' :: rest =>
    let digits := rest.takeWhile Text.isAsciiDigit
    if digits.isEmpty then (none, characters) else (some digits, rest.dropWhile Text.isAsciiDigit)
  | _ => (none, characters)

def splitExponent (characters : List Char) : Option (Bool × List Char) × List Char :=
  match characters with
  | mark :: rest =>
    if mark = 'e' ∨ mark = 'E' then
      let (negative, rest) := Number.splitSign rest
      let digits := rest.takeWhile Text.isAsciiDigit
      if digits.isEmpty then (none, characters)
      else (some (negative, digits), rest.dropWhile Text.isAsciiDigit)
    else (none, characters)
  | [] => (none, characters)

def splitWhole (characters : List Char) : List Char × List Char :=
  match characters with
  | '0' :: rest => (['0'], rest)
  | _ => (characters.takeWhile Text.isAsciiDigit, characters.dropWhile Text.isAsciiDigit)

def readNumber (negative : Bool) (characters : List Char) :
    Except Fault (Value × List Char) :=
  let (whole, rest) := splitWhole characters
  if whole.isEmpty then .error .malformed
  else
    let (fraction, rest) := splitFraction rest
    let (exponent, rest) := splitExponent rest
    match fraction, exponent with
    | none, none =>
      if whole.length > digitLimit then .error .tooManyDigits
      else .ok (.int (Number.signed negative (Number.ofDecimalDigits whole)), rest)
    | _, _ =>
      let parts : Number.DecimalParts :=
        { negative, whole, fraction := fraction.getD []
          exponentNegative := (exponent.map Prod.fst).getD false
          exponent := (exponent.map Prod.snd).getD [] }
      .ok (.float parts.toBinary64, rest)

def readScalar : List Char → Except Fault (Value × List Char)
  | 'n' :: 'u' :: 'l' :: 'l' :: rest => .ok (.null, rest)
  | 't' :: 'r' :: 'u' :: 'e' :: rest => .ok (.bool true, rest)
  | 'f' :: 'a' :: 'l' :: 's' :: 'e' :: rest => .ok (.bool false, rest)
  | 'N' :: 'a' :: 'N' :: _ => .error (.constant "NaN")
  | 'I' :: 'n' :: 'f' :: 'i' :: 'n' :: 'i' :: 't' :: 'y' :: _ => .error (.constant "Infinity")
  | '-' :: 'I' :: 'n' :: 'f' :: 'i' :: 'n' :: 'i' :: 't' :: 'y' :: _ =>
    .error (.constant "-Infinity")
  | '-' :: rest => readNumber true rest
  | rest => readNumber false rest

def fuelFor (characters : List Char) : Nat := 2 * characters.length + 2

mutual

/-- Reads a value at the beginning of a text, inside containers that may go `depth`
levels deeper. -/
def readValue : Nat → Nat → List Char → Except Fault (Value × List Char)
  | 0, _, _ => .error .tooDeep
  | fuel + 1, depth, characters =>
    match characters with
    | '"' :: rest =>
      match readString [] rest with
      | .ok (text, rest) => .ok (.text (String.ofList text), rest)
      | .error fault => .error fault
    | '[' :: rest =>
      match depth with
      | 0 => .error .tooDeep
      | depth + 1 =>
        match skipSpaces rest with
        | ']' :: rest => .ok (.list [], rest)
        | rest => readItems fuel depth [] rest
    | '{' :: rest =>
      match depth with
      | 0 => .error .tooDeep
      | depth + 1 =>
        match skipSpaces rest with
        | '}' :: rest => .ok (.mapping [], rest)
        | rest => readMembers fuel depth [] rest
    | _ => readScalar characters

def readItems : Nat → Nat → List Value → List Char → Except Fault (Value × List Char)
  | 0, _, _, _ => .error .tooDeep
  | fuel + 1, depth, done, characters =>
    match readValue fuel depth characters with
    | .error fault => .error fault
    | .ok (item, rest) =>
      match skipSpaces rest with
      | ',' :: rest => readItems fuel depth (item :: done) (skipSpaces rest)
      | ']' :: rest => .ok (.list (item :: done).reverse, rest)
      | _ => .error .malformed

def readMembers : Nat → Nat → List (Value × Value) → List Char → Except Fault (Value × List Char)
  | 0, _, _, _ => .error .tooDeep
  | fuel + 1, depth, done, characters =>
    match characters with
    | '"' :: rest =>
      match readString [] rest with
      | .error fault => .error fault
      | .ok (key, rest) =>
        match skipSpaces rest with
        | ':' :: rest =>
          match readValue fuel depth (skipSpaces rest) with
          | .error fault => .error fault
          | .ok (value, rest) =>
            let done := Value.put (.text (String.ofList key)) value done
            match skipSpaces rest with
            | ',' :: rest => readMembers fuel depth done (skipSpaces rest)
            | '}' :: rest => .ok (.mapping done, rest)
            | _ => .error .malformed
        | _ => .error .malformed
    | _ => .error .malformed

end

section

variable {fuel depth : Nat} {characters : List Char}

theorem readValue_string {text rest : List Char}
    (read : readString [] characters = .ok (text, rest)) :
    readValue (fuel + 1) depth ('"' :: characters) = .ok (.text (String.ofList text), rest) := by
  rw [readValue, read]

theorem readItems_error {done : List Value} {fault : Fault}
    (stopped : readValue fuel depth characters = .error fault) :
    readItems (fuel + 1) depth done characters = .error fault := by
  rw [readItems, stopped]

end

def readWithin (depth : Nat) (text : String) : Except Fault Value :=
  let characters := skipSpaces text.toList
  match readValue (fuelFor characters) depth characters with
  | .error fault => .error fault
  | .ok (value, rest) => if (skipSpaces rest).isEmpty then .ok value else .error .malformed

/-- How deep containers may stand in one another, in all dialects of JSON. -/
def depthLimit : Nat := 990

def read (text : String) : Except Fault Value := readWithin depthLimit text

end TolerantValidation.Json
