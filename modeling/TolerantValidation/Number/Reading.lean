import TolerantValidation.Number.Binary64
import TolerantValidation.Text.Digit
import TolerantValidation.Text.Blank

/-!
Reading numbers from text: digits of a base, decimal numbers with fraction and exponent, and whole
numbers with separators between their digits.
-/

namespace TolerantValidation.Number

def ofDigits (base : Nat) (digits : List Nat) : Nat :=
  digits.foldl (fun number digit => number * base + digit) 0

def ofDecimalDigits (characters : List Char) : Nat :=
  ofDigits 10 (characters.filterMap Text.asciiDigitValue?)

def ofHexDigits (characters : List Char) : Nat :=
  ofDigits 16 (characters.filterMap Text.hexDigitValue?)

def splitSign : List Char → Bool × List Char
  | '-' :: rest => (true, rest)
  | '+' :: rest => (false, rest)
  | rest => (false, rest)

structure DecimalParts where
  negative : Bool
  whole : List Char
  fraction : List Char
  exponentNegative : Bool
  exponent : List Char

namespace DecimalParts

def toBinary64 (parts : DecimalParts) : Binary64 :=
  let exponentSize : Int := ofDecimalDigits parts.exponent
  let exponent := if parts.exponentNegative then -exponentSize else exponentSize
  Binary64.ofDecimal parts.negative (ofDecimalDigits (parts.whole ++ parts.fraction))
    (exponent - parts.fraction.length)

end DecimalParts

def readExponent? : List Char → Option (Bool × List Char)
  | [] => some (false, [])
  | mark :: rest =>
    if mark = 'e' ∨ mark = 'E' then
      let (negative, digits) := splitSign rest
      if !digits.isEmpty && digits.all Text.isAsciiDigit then some (negative, digits) else none
    else none

def readDecimal? (characters : List Char) : Option DecimalParts := do
  let (negative, rest) := splitSign characters
  let whole := rest.takeWhile Text.isAsciiDigit
  let rest := rest.dropWhile Text.isAsciiDigit
  let (fraction, rest) :=
    match rest with
    | '.' :: tail => (tail.takeWhile Text.isAsciiDigit, tail.dropWhile Text.isAsciiDigit)
    | _ => ([], rest)
  if whole.isEmpty && fraction.isEmpty then none
  else
    let (exponentNegative, exponent) ← readExponent? rest
    some { negative, whole, fraction, exponentNegative, exponent }

def asciiLower (characters : List Char) : List Char :=
  characters.map Char.toLower

def readReal? (characters : List Char) : Option Binary64 :=
  let (negative, rest) := splitSign characters
  let word := String.ofList (asciiLower rest)
  if word = "inf" ∨ word = "infinity" then some (.infinity negative)
  else if word = "nan" then some .notANumber
  else (readDecimal? characters).map DecimalParts.toBinary64

def hasSeparatedUnderscores : List Char → Bool
  | [] => true
  | ['_'] => false
  | '_' :: '_' :: _ => false
  | '_' :: rest => hasSeparatedUnderscores rest
  | _ :: rest => hasSeparatedUnderscores rest

def dropUnderscores? (characters : List Char) : Option (List Char) :=
  if characters.head? = some '_' ∨ hasSeparatedUnderscores characters = false then none
  else some (characters.filter (· ≠ '_'))

def digitValues? (characters : List Char) : Option (List Nat) :=
  characters.mapM Text.digitValue?

def trimSpaces (characters : List Char) : List Char :=
  Text.trim Text.isSpace characters

def isDigitOrUnderscore (character : Char) : Bool :=
  character == '_' || (Text.digitValue? character).isSome

/-- Splits a whole number off the beginning of a text: white space, a sign, and decimal digits of
any script with single underscores between them. The digits are not yet put together. -/
def splitWhole? (characters : List Char) : Option ((Bool × List Nat) × List Char) := do
  let (negative, rest) := splitSign (characters.dropWhile Text.isSpace)
  let digits ← dropUnderscores? (rest.takeWhile isDigitOrUnderscore)
  if digits.isEmpty then none
  else some ((negative, ← digitValues? digits), rest.dropWhile isDigitOrUnderscore)

def readWhole? (characters : List Char) : Option (Bool × List Nat) := do
  let (whole, rest) ← splitWhole? characters
  if rest.all Text.isSpace then some whole else none

def signed (negative : Bool) (magnitude : Nat) : Int :=
  if negative then -magnitude else magnitude

end TolerantValidation.Number
