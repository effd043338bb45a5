import TolerantValidation.Toml.Text

/-!
Scalars of TOML other than strings: dates and times, numbers and truth values. Each reader takes as
much of a text as belongs to its kind.
-/

namespace TolerantValidation.Toml

def readField? (count least greatest : Nat) (characters : List Char) : Option (Nat × List Char) :=
  let digits := characters.take count
  let number := Number.ofDecimalDigits digits
  if digits.length = count ∧ digits.all Text.isAsciiDigit ∧ least ≤ number ∧ number ≤ greatest then
    some (number, characters.drop count)
  else none

def after? (character : Char) : List Char → Option (List Char)
  | first :: rest => if first = character then some rest else none
  | [] => none

def readFraction (characters : List Char) : Nat × List Char :=
  match characters with
  | '.' :: rest =>
    let digits := rest.takeWhile Text.isAsciiDigit
    if digits.isEmpty then (0, characters)
    else
      (Number.ofDecimalDigits ((digits ++ List.replicate 6 '0').take 6),
        rest.dropWhile Text.isAsciiDigit)
  | _ => (0, characters)

def readTime? (characters : List Char) : Option (TimeOfDay × List Char) := do
  let (hour, rest) ← readField? 2 0 23 characters
  let (minute, rest) ← readField? 2 0 59 (← after? ':' rest)
  let (second, rest) ← readField? 2 0 59 (← after? ':' rest)
  let (microsecond, rest) := readFraction rest
  some (← TimeOfDay.ofParts? hour minute second microsecond, rest)

def readOffset (characters : List Char) : Option Offset × List Char :=
  let signed (sign : Int) (rest : List Char) : Option (Offset × List Char) := do
    let (hours, rest) ← readField? 2 0 23 rest
    let (minutes, rest) ← readField? 2 0 59 (← after? ':' rest)
    some (← Offset.ofMicroseconds? (sign * (hours * 60 + minutes : Nat) * 60000000), rest)
  let read :=
    match characters with
    | 'Z' :: rest => some (Offset.utc, rest)
    | 'z' :: rest => some (Offset.utc, rest)
    | '+' :: rest => signed 1 rest
    | '-' :: rest => signed (-1) rest
    | _ => none
  match read with
  | some (offset, rest) => (some offset, rest)
  | none => (none, characters)

/-- Reads a date, or a date with a clock time and perhaps an offset. A day that does not exist is a
fault. -/
def readMoment? (characters : List Char) : Option (Except DocumentFault (Value × List Char)) := do
  let (year, rest) ← readField? 4 0 9999 characters
  let (month, rest) ← readField? 2 1 12 (← after? '-' rest)
  let (day, rest) ← readField? 2 1 31 (← after? '-' rest)
  let time? :=
    match rest with
    | separator :: rest =>
      if separator = 'T' ∨ separator = 't' ∨ separator = ' ' then readTime? rest else none
    | [] => none
  match Date.ofParts? year month day, time? with
  | none, _ => some malformed
  | some date, none => some (.ok (.date date, rest))
  | some date, some (time, rest) =>
    let (offset, rest) := readOffset rest
    some (.ok (.dateTime ⟨date, time, offset⟩, rest))

def moreDigits (holds : Char → Bool) : List Char → List Char × List Char
  | '_' :: digit :: rest =>
    if holds digit then
      let (digits, rest) := moreDigits holds rest
      (digit :: digits, rest)
    else ([], '_' :: digit :: rest)
  | digit :: rest =>
    if holds digit then
      let (digits, rest) := moreDigits holds rest
      (digit :: digits, rest)
    else ([], digit :: rest)
  | [] => ([], [])

def readDigits? (holds : Char → Bool) : List Char → Option (List Char × List Char)
  | digit :: rest =>
    if holds digit then
      let (digits, rest) := moreDigits holds rest
      some (digit :: digits, rest)
    else none
  | [] => none

def readInBase? (base : Nat) (characters : List Char) : Option (Value × List Char) := do
  let holds (digit : Char) : Bool := (Text.hexDigitValue? digit).any (· < base)
  let (digits, rest) ← readDigits? holds characters
  some (.int (Number.ofDigits base (digits.filterMap Text.hexDigitValue?)), rest)

def readMarked? : List Char → Option (Value × List Char)
  | '0' :: 'x' :: rest => readInBase? 16 rest
  | '0' :: 'b' :: rest => readInBase? 2 rest
  | '0' :: 'o' :: rest => readInBase? 8 rest
  | _ => none

def readWhole? : List Char → Option (List Char × List Char)
  | '0' :: rest => some (['0'], rest)
  | characters => readDigits? Text.isAsciiDigit characters

def readDecimals (characters : List Char) : List Char × List Char :=
  match characters with
  | '.' :: rest => (readDigits? Text.isAsciiDigit rest).getD ([], characters)
  | _ => ([], characters)

def readExponent (characters : List Char) : (Bool × List Char) × List Char :=
  match characters with
  | mark :: rest =>
    if mark = 'e' ∨ mark = 'E' then
      let (negative, digits) := Number.splitSign rest
      match readDigits? Text.isAsciiDigit digits with
      | some (digits, rest) => ((negative, digits), rest)
      | none => ((false, []), characters)
    else ((false, []), characters)
  | [] => ((false, []), [])

def readDecimal? (characters : List Char) : Option (Except DocumentFault (Value × List Char)) := do
  let (negative, unsigned) := Number.splitSign characters
  let (whole, rest) ← readWhole? unsigned
  let (fraction, rest) := readDecimals rest
  let ((exponentNegative, exponent), rest) := readExponent rest
  if fraction.isEmpty && exponent.isEmpty then
    if whole.length > digitLimit then some (.error .noSuchNumber)
    else some (.ok (.int (Number.signed negative (Number.ofDecimalDigits whole)), rest))
  else
    let parts : Number.DecimalParts := { negative, whole, fraction, exponentNegative, exponent }
    some (.ok (.float parts.toBinary64, rest))

def readSpecial? (characters : List Char) : Option (Value × List Char) :=
  let (negative, unsigned) := Number.splitSign characters
  match unsigned with
  | 'i' :: 'n' :: 'f' :: rest => some (.float (.infinity negative), rest)
  | 'n' :: 'a' :: 'n' :: rest => some (.float .notANumber, rest)
  | _ => none

def readScalar (characters : List Char) : Except DocumentFault (Value × List Char) :=
  match characters with
  | 't' :: 'r' :: 'u' :: 'e' :: rest => .ok (.bool true, rest)
  | 'f' :: 'a' :: 'l' :: 's' :: 'e' :: rest => .ok (.bool false, rest)
  | _ =>
    match readMoment? characters, readTime? characters with
    | some read, _ => read
    | none, some (time, rest) => .ok (.time time none, rest)
    | none, none =>
      match readMarked? characters, readDecimal? characters, readSpecial? characters with
      | some read, _, _ => .ok read
      | none, some read, _ => read
      | none, none, some read => .ok read
      | none, none, none => malformed

end TolerantValidation.Toml
