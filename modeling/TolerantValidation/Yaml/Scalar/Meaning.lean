import TolerantValidation.Yaml.Tag
import TolerantValidation.Text.Base64

/-!
What the text of a scalar means under a tag of the core schema. A text that has the tag by its own
form always means something, unless its number is too long or its date does not exist; one that is
marked with the tag may mean nothing.
-/

namespace TolerantValidation.Yaml

def asAsciiDigit (character : Char) : Char :=
  match Text.digitValue? character with
  | some value => Char.ofNat ('0'.toNat + value)
  | none => character

def dropBaseMark (mark : Char) : List Char → List Char
  | '0' :: letter :: rest =>
    if letter.toLower = mark then rest else '0' :: letter :: rest
  | text => text

def wholeInBase (base : Nat) (mark : Char) (text : List Char) : Except DocumentFault Int :=
  let (negative, rest) := Number.splitSign (Number.trimSpaces text)
  let digits := (dropBaseMark mark (rest.map asAsciiDigit)).map Text.hexDigitValue?
  if !digits.isEmpty && digits.all fun digit => digit.any (· < base) then
    .ok (Number.signed negative (Number.ofDigits base (digits.filterMap id)))
  else .error .noSuchNumber

def wholeInDecimal (text : List Char) : Except DocumentFault Int :=
  match Number.readWhole? text with
  | some (negative, digits) =>
    if digits.length > digitLimit then .error .noSuchNumber
    else .ok (Number.signed negative (Number.ofDigits 10 digits))
  | none => .error .noSuchNumber

def splitRequiredSign : List Char → Except DocumentFault (Bool × List Char)
  | [] => .error .emptyNumber
  | text => .ok (Number.splitSign text)

def dropUnderscores (text : List Char) : List Char :=
  text.filter (· ≠ '_')

def wholeOfScalar (text : List Char) : Except DocumentFault Int := do
  let (negative, digits) ← splitRequiredSign (dropUnderscores text)
  let magnitude ←
    match digits with
    | [] => .error .emptyNumber
    | ['0'] => .ok 0
    | '0' :: 'b' :: digits => wholeInBase 2 'b' digits
    | '0' :: 'x' :: digits => wholeInBase 16 'x' digits
    | '0' :: _ => wholeInBase 8 'o' digits
    | _ =>
      if digits.contains ':' then do
        let parts ← (pieces ':' digits).mapM wholeInDecimal
        .ok (parts.foldl (fun number part => number * 60 + part) 0)
      else wholeInDecimal digits
  .ok (if negative then -magnitude else magnitude)

def realOfText (text : List Char) : Except DocumentFault Binary64 :=
  match Number.readReal? ((Number.trimSpaces text).map asAsciiDigit) with
  | some number => .ok number
  | none => .error .noSuchNumber

/-- The sum of numbers, each times a power of sixty. The last one counts once. -/
def sexagesimalSum (base : Int) (sum : Binary64) : List Binary64 → Except DocumentFault Binary64
  | [] => .ok sum
  | part :: parts =>
    match Binary64.ofInt? base with
    | none => .error .tooLarge
    | some unit => sexagesimalSum (base * 60) (sum.add (part.mul unit)) parts

def realOfScalar (text : List Char) : Except DocumentFault Binary64 := do
  let (negative, digits) ← splitRequiredSign (Number.asciiLower (dropUnderscores text))
  let magnitude ←
    if digits = ['.', 'i', 'n', 'f'] then .ok (.infinity false)
    else if digits = ['.', 'n', 'a', 'n'] then .ok (.sharedNotANumber 0)
    else if digits.contains ':' then do
      sexagesimalSum 1 .zero (← (pieces ':' digits).mapM realOfText).reverse
    else realOfText digits
  .ok (if negative && !magnitude.isNotANumber then magnitude.neg else magnitude)

def flagOfScalar (text : List Char) : Except DocumentFault Bool :=
  match flagWords.lookup (String.ofList (Number.asciiLower text)) with
  | some flag => .ok flag
  | none => .error .unknownFlag

def octetsOfScalar (text : List Char) : Except DocumentFault (List UInt8) :=
  if text.all fun character => character.toNat < 0x80 then
    match Text.octetsOfBase64? text with
    | some octets => .ok octets
    | none => .error (.malformed .yaml)
  else .error (.malformed .yaml)

def momentOfScalar (text : List Char) : Except DocumentFault Value :=
  match readTimestamp? (withoutFinalBreak text) with
  | some timestamp => timestamp.toValue
  | none => .error .noTimestamp

end TolerantValidation.Yaml
