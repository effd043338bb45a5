import TolerantValidation.Yaml.Timestamp

/-!
Tags of the core schema, and which of them an unmarked plain scalar has: its text decides. A line
break at the very end of the text does not count.
-/

namespace TolerantValidation.Yaml

def coreTag (name : String) : String :=
  "tag:yaml.org,2002:" ++ name

def flagWords : List (String × Bool) :=
  [("yes", true), ("no", false), ("true", true), ("false", false), ("on", true), ("off", false)]

def spellings (word : List Char) : List (List Char) :=
  match word with
  | [] => [[]]
  | first :: rest => [word, first.toUpper :: rest, word.map Char.toUpper]

def isSpelling (word : String) (text : List Char) : Bool :=
  (spellings word.toList).contains text

def isRun (holds : Char → Bool) (text : List Char) : Bool :=
  !text.isEmpty && text.all fun character => holds character || character == '_'

def isDigits (isFirst : Char → Bool) : List Char → Bool
  | [] => false
  | first :: rest =>
    isFirst first && rest.all fun character => Text.isAsciiDigit character || character == '_'

def isSexagesimalPart : List Char → Bool
  | [digit] => Text.isAsciiDigit digit
  | [high, low] => ('0' ≤ high && high ≤ '5') && Text.isAsciiDigit low
  | _ => false

def pieces (separator : Char) : List Char → List (List Char)
  | [] => [[]]
  | character :: rest =>
    if character = separator then [] :: pieces separator rest
    else
      match pieces separator rest with
      | piece :: others => (character :: piece) :: others
      | [] => [[character]]

def withoutSign (text : List Char) : List Char :=
  (Number.splitSign text).2

def isPositiveDigit (character : Char) : Bool :=
  '1' ≤ character && character ≤ '9'

def isWhole (text : List Char) : Bool :=
  match withoutSign text with
  | ['0'] => true
  | '0' :: 'b' :: digits => isRun (fun digit => digit == '0' || digit == '1') digits
  | '0' :: 'x' :: digits => isRun Text.isHexDigit digits
  | '0' :: digits => isRun (fun digit => '0' ≤ digit && digit ≤ '7') digits
  | digits =>
    match pieces ':' digits with
    | first :: parts => isDigits isPositiveDigit first && parts.all isSexagesimalPart
    | [] => false

def isExponent : List Char → Bool
  | [] => true
  | mark :: sign :: digits =>
    (mark == 'e' || mark == 'E') && (sign == '+' || sign == '-') && !digits.isEmpty &&
      digits.all Text.isAsciiDigit
  | _ => false

def isDigitOrUnderscore (character : Char) : Bool :=
  Text.isAsciiDigit character || character == '_'

def isFraction (text : List Char) : Bool :=
  isExponent (text.dropWhile isDigitOrUnderscore)

def isReal (text : List Char) : Bool :=
  let unsigned := withoutSign text
  match unsigned with
  | '.' :: word =>
    isSpelling "inf" word ||
      (unsigned.length == text.length &&
        (["nan", "NaN", "NAN"].contains (String.ofList word) ||
          match word with
          | digit :: rest => Text.isAsciiDigit digit && isFraction rest
          | [] => false))
  | _ =>
    let whole := unsigned.takeWhile fun character => character != '.'
    match unsigned.dropWhile fun character => character != '.' with
    | _ :: fraction =>
      match pieces ':' whole with
      | [digits] => isDigits Text.isAsciiDigit digits && isFraction fraction
      | first :: parts =>
        isDigits Text.isAsciiDigit first && parts.all isSexagesimalPart &&
          fraction.all isDigitOrUnderscore
      | [] => false
    | [] => false

def isTimestamp (text : List Char) : Bool :=
  (readTimestamp? text).any WrittenTimestamp.isEvident

def withoutFinalBreak (text : List Char) : List Char :=
  if text.getLast? = some '\n' then text.dropLast else text

def tagOfText (text : String) : String :=
  let line := withoutFinalBreak text.toList
  if text.isEmpty then coreTag "null"
  else if flagWords.any fun word => isSpelling word.1 line then coreTag "bool"
  else if isReal line then coreTag "float"
  else if isWhole line then coreTag "int"
  else if line = ['<', '<'] then coreTag "merge"
  else if line = ['~'] || isSpelling "null" line then coreTag "null"
  else if isTimestamp line then coreTag "timestamp"
  else if line = ['='] then coreTag "value"
  else if line = ['!'] || line = ['&'] || line = ['*'] then coreTag "yaml"
  else coreTag "str"

end TolerantValidation.Yaml
