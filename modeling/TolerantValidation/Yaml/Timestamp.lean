import TolerantValidation.Document.Fault
import TolerantValidation.Text.Digit
import TolerantValidation.Number.Reading

/-!
Timestamps as YAML writes them: a date, or a date with a clock time and perhaps an offset. Whether a
text has the form of a timestamp, and whether there is such a time, are two questions.
-/

namespace TolerantValidation.Yaml

structure WrittenClock where
  hour : Nat
  minute : Nat
  second : Nat
  fraction : List Char
  offset : Option Int

structure WrittenTimestamp where
  year : Nat
  month : Nat
  day : Nat
  hasFullDate : Bool
  clock : Option WrittenClock

def shortNumber? : List Char → Option (Nat × Nat × List Char)
  | first :: second :: rest => do
    let high ← Text.asciiDigitValue? first
    match Text.asciiDigitValue? second with
    | some low => some (high * 10 + low, 2, rest)
    | none => some (high, 1, second :: rest)
  | [only] => do some (← Text.asciiDigitValue? only, 1, [])
  | [] => none

def twoDigits? (characters : List Char) : Option (Nat × List Char) := do
  let (number, length, rest) ← shortNumber? characters
  if length = 2 then some (number, rest) else none

def afterCharacter? (character : Char) : List Char → Option (List Char)
  | first :: rest => if first = character then some rest else none
  | [] => none

def isSpaceOrTab (character : Char) : Bool :=
  character == ' ' || character == '\t'

def afterDateSeparator? : List Char → Option (List Char)
  | 'T' :: rest => some rest
  | 't' :: rest => some rest
  | characters =>
    let rest := characters.dropWhile isSpaceOrTab
    if rest.length < characters.length then some rest else none

def readOffset? (characters : List Char) : Option (Option Int) :=
  match characters, characters.dropWhile isSpaceOrTab with
  | [], _ => some none
  | _, ['Z'] => some (some 0)
  | _, sign :: rest =>
    if sign = '+' ∨ sign = '-' then do
      let (hours, _, rest) ← shortNumber? rest
      let minutes ←
        match rest with
        | [] => some 0
        | ':' :: rest => do
          let (minutes, rest) ← twoDigits? rest
          if rest.isEmpty then some minutes else none
        | _ => none
      let size : Int := hours * 60 + minutes
      some (some (if sign = '-' then -size else size))
    else none
  | _, [] => none

def readClock? (characters : List Char) : Option WrittenClock := do
  let (hour, _, rest) ← shortNumber? characters
  let (minute, rest) ← twoDigits? (← afterCharacter? ':' rest)
  let (second, rest) ← twoDigits? (← afterCharacter? ':' rest)
  let (fraction, rest) :=
    match rest with
    | '.' :: rest => (rest.takeWhile Text.isAsciiDigit, rest.dropWhile Text.isAsciiDigit)
    | _ => ([], rest)
  let offset ← readOffset? rest
  some { hour, minute, second, fraction, offset }

def readTimestamp? (characters : List Char) : Option WrittenTimestamp := do
  let (century, rest) ← twoDigits? characters
  let (years, rest) ← twoDigits? rest
  let (month, monthLength, rest) ← shortNumber? (← afterCharacter? '-' rest)
  let (day, dayLength, rest) ← shortNumber? (← afterCharacter? '-' rest)
  let clock ←
    if rest.isEmpty then some none
    else do some (some (← readClock? (← afterDateSeparator? rest)))
  some
    { year := century * 100 + years, month, day, clock
      hasFullDate := monthLength = 2 && dayLength = 2 }

namespace WrittenTimestamp

/-- Whether an unmarked text of this form is a timestamp: a date alone has two digits each for month
and day. -/
def isEvident (timestamp : WrittenTimestamp) : Bool :=
  timestamp.clock.isSome || timestamp.hasFullDate

def microseconds (fraction : List Char) : Nat :=
  Number.ofDecimalDigits ((fraction ++ List.replicate 6 '0').take 6)

def toValue (timestamp : WrittenTimestamp) : Except DocumentFault Value :=
  match Date.ofParts? timestamp.year timestamp.month timestamp.day with
  | none => .error .noSuchNumber
  | some date =>
    match timestamp.clock with
    | none => .ok (.date date)
    | some clock =>
      match TimeOfDay.ofParts? clock.hour clock.minute clock.second (microseconds clock.fraction),
          clock.offset.map fun minutes => Offset.ofMicroseconds? (minutes * 60000000) with
      | none, _ => .error .noSuchNumber
      | some _, some none => .error .noSuchNumber
      | some time, some (some offset) => .ok (.dateTime ⟨date, time, some offset⟩)
      | some time, none => .ok (.dateTime ⟨date, time, none⟩)

end WrittenTimestamp
end TolerantValidation.Yaml
