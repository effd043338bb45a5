import TolerantValidation.Calendar.DateTime
import TolerantValidation.Text.Digit

/-!
Dates and times as ISO 8601 text: the one form that is written and the several that are read.
Reading takes calendar dates and week dates with or without separators, any one character between
date and time, and a time down to a fraction of a second, cut after six digits.
-/

namespace TolerantValidation.Iso

def padded (width number : Nat) : List Char :=
  let digits := Nat.toDigits 10 number
  List.replicate (width - digits.length) '0' ++ digits

def fractionText (microsecond : Nat) : List Char :=
  if microsecond = 0 then [] else '.' :: padded 6 microsecond

def dateText (date : Date) : List Char :=
  padded 4 date.year ++ '-' :: padded 2 date.month ++ '-' :: padded 2 date.day

def timeText (time : TimeOfDay) : List Char :=
  padded 2 time.hour ++ ':' :: padded 2 time.minute ++ ':' :: padded 2 time.second ++
    fractionText time.microsecond

def offsetText (offset : Offset) : List Char :=
  let size := offset.microseconds.natAbs
  let seconds := size / 1000000 % 60
  let fraction := size % 1000000
  (if offset.microseconds < 0 then '-' else '+') :: padded 2 (size / 3600000000) ++
    ':' :: padded 2 (size / 60000000 % 60) ++
    (if seconds = 0 ∧ fraction = 0 then [] else ':' :: padded 2 seconds ++ fractionText fraction)

def clockText (time : TimeOfDay) (offset : Option Offset) : List Char :=
  timeText time ++ (offset.map offsetText).getD []

def dateTimeText (separator : Char) (moment : DateTime) : List Char :=
  dateText moment.date ++ separator :: clockText moment.time moment.offset

def readDigits : Nat → List Char → Option (Nat × List Char)
  | count, characters => go count 0 characters
where
  go : Nat → Nat → List Char → Option (Nat × List Char)
    | 0, number, rest => some (number, rest)
    | _ + 1, _, [] => none
    | count + 1, number, character :: rest =>
      (Text.asciiDigitValue? character).bind fun digit => go count (number * 10 + digit) rest

/-- Where the date ends. A week date without separator may have a day or not; the parity of the
digits decides, as the digits of a time come in pairs. -/
def dateLength? (characters : List Char) : Option Nat :=
  let isDigitAt (index : Nat) : Bool := (characters[index]?.map Text.isAsciiDigit).getD false
  if characters.length < 7 then none
  else if characters.length = 7 then some 7
  else if characters[4]? = some '-' then
    if characters[5]? = some 'W' then
      if characters[8]? = some '-' then
        if characters.length = 9 then none
        else if isDigitAt 10 then some 8
        else some 10
      else some 8
    else some 10
  else if characters[4]? = some 'W' then
    let position := 7 + ((characters.drop 7).takeWhile Text.isAsciiDigit).length
    if position < 9 then some position
    else if position % 2 = 0 then some 7
    else some 8
  else some 8

def readWeekDate? (year : Nat) (separated : Bool) (characters : List Char) : Option Date := do
  let (week, rest) ← readDigits 2 characters
  match rest with
  | [] => Date.ofWeek? year week 1
  | _ =>
    let rest ← if separated then
        (match rest with
          | '-' :: tail => some tail
          | _ => none)
      else some rest
    let (day, _) ← readDigits 1 rest
    Date.ofWeek? year week day

def readDate? (characters : List Char) : Option Date := do
  let (year, rest) ← readDigits 4 characters
  let separated := rest.head? = some '-'
  let rest := if separated then rest.drop 1 else rest
  match rest with
  | 'W' :: rest => readWeekDate? year separated rest
  | _ =>
    let (month, rest) ← readDigits 2 rest
    let rest ← if separated then
        (match rest with
          | '-' :: tail => some tail
          | _ => none)
      else some rest
    let (day, rest) ← readDigits 2 rest
    if rest.isEmpty then Date.ofParts? year month day else none

structure ClockParts where
  hour : Nat := 0
  minute : Nat := 0
  second : Nat := 0
  microsecond : Nat := 0

def ClockParts.put (parts : ClockParts) (position number : Nat) : ClockParts :=
  match position with
  | 0 => { parts with hour := number }
  | 1 => { parts with minute := number }
  | _ => { parts with second := number }

def endMark : Char := '\x00'

def readFraction (parts : ClockParts) (characters : List Char) (following : Char) :
    Option (ClockParts × Bool) := do
  let taken := min 6 characters.length
  let (number, rest) ← readDigits taken characters
  let rest := rest.dropWhile Text.isAsciiDigit
  some ({ parts with microsecond := number * Nat.pow 10 (6 - taken) },
    rest.headD following != endMark)

/-- Reads hour, minute and second, each of two digits, with colons between all of them or none. A
point or a comma ends them and begins a fraction. `following` is the character after the last one.
`true` tells that something other than the end mark follows: one character may, of one octet. -/
def readClock (following : Char) :
    Nat → Bool → ClockParts → List Char → Option (ClockParts × Bool)
  | 3, _, parts, characters => readFraction parts characters following
  | position, separated, parts, characters => do
    let (number, rest) ← readDigits 2 characters
    let parts := parts.put position number
    match rest with
    | [] => some (parts, following != endMark)
    | [last] => if last.toNat < 0x80 then some (parts, last != endMark) else none
    | mark :: tail =>
      let separated := if position = 0 then mark == ':' else separated
      if separated && mark == ':' then
        if position < 2 then readClock following (position + 1) separated parts tail
        else readFraction parts tail following
      else if mark == '.' || mark == ',' then readFraction parts tail following
      else if separated then none
      else if position < 2 then readClock following (position + 1) separated parts rest
      else readFraction parts rest following
termination_by position => 3 - position

def isOffsetMark (character : Char) : Bool :=
  character == '+' || character == '-' || character == 'Z'

def ClockParts.offset? (parts : ClockParts) (negative : Bool) : Option Offset :=
  let seconds := parts.hour * 3600 + parts.minute * 60 + parts.second
  if seconds = 0 then some .utc
  else
    let size : Int := seconds * 1000000 + parts.microsecond
    Offset.ofMicroseconds? (if negative then -size else size)

def ClockParts.time? (parts : ClockParts) : Option TimeOfDay :=
  TimeOfDay.ofParts? parts.hour parts.minute parts.second parts.microsecond

def readTime? (characters : List Char) : Option (TimeOfDay × Option Offset) := do
  let clock := characters.takeWhile fun character => !isOffsetMark character
  match characters.dropWhile fun character => !isOffsetMark character with
  | [] =>
    let (parts, more) ← readClock endMark 0 false {} clock
    if more then none else some (← parts.time?, none)
  | mark :: tail =>
    let (parts, _) ← readClock mark 0 false {} clock
    if mark == 'Z' then
      if tail.headD endMark == endMark then some (← parts.time?, some .utc) else none
    else
      let (offset, more) ← readClock endMark 0 false {} tail
      if more then none
      else some (← parts.time?, some (← offset.offset? (mark == '-')))

/-- Reads a date, or a date and a time with any one character between them. -/
def readDateTime? (characters : List Char) : Option DateTime := do
  let length ← dateLength? characters
  let date ← readDate? (characters.take length)
  match characters.drop length with
  | [] => some ⟨date, .midnight, none⟩
  | _ :: clock =>
    let (time, offset) ← readTime? clock
    some ⟨date, time, offset⟩

end TolerantValidation.Iso
