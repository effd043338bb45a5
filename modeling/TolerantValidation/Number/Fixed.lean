import TolerantValidation.Number.Shortest

/-!
Decimal text of a double-precision number with a given number of digits: after the point, after the
first digit of a number with exponent, or in all. The exact value is rounded once; a tie goes to the
even neighbour.
-/

namespace TolerantValidation.Binary64

def scaledToWhole (significand : Nat) (exponent power : Int) : Nat :=
  divideToEven (significand * Nat.pow 2 exponent.toNat * Nat.pow 10 power.toNat)
    (Nat.pow 2 (-exponent).toNat * Nat.pow 10 (-power).toNat)

def paddedDigits (length number : Nat) : List Char :=
  let digits := decimalDigits number
  List.replicate (length - digits.length) '0' ++ digits

def withPoint (keepsPoint : Bool) (places : Nat) (digits : List Char) : List Char :=
  let whole := digits.take (digits.length - places)
  let fraction := digits.drop (digits.length - places)
  if fraction.isEmpty && !keepsPoint then whole else whole ++ '.' :: fraction

def fixedText (keepsPoint : Bool) (places significand : Nat) (exponent : Int) : List Char :=
  withPoint keepsPoint places
    (paddedDigits (places + 1) (scaledToWhole significand exponent places))

def leadingDigits (count significand : Nat) (exponent : Int) : List Char × Int :=
  if significand = 0 then (List.replicate count '0', 0)
  else
    let point := decimalPoint significand exponent
    let digits := decimalDigits (scaledToWhole significand exponent (count - point))
    -- Rounding up may have given one digit more.
    if digits.length > count then (digits.take count, point) else (digits, point - 1)

def exponentialText (keepsPoint : Bool) (places significand : Nat) (exponent : Int) : List Char :=
  let (digits, power) := leadingDigits (places + 1) significand exponent
  withPoint keepsPoint places digits ++ exponentText power

def dropFractionZeros (text : List Char) : List Char :=
  if text.contains '.' then
    let kept := dropTrailingZeros text
    if kept.getLast? = some '.' then kept.dropLast else kept
  else text

/-- The text of a finite number without sign, with so many digits in all. Very small and large
numbers have an exponent. Unless all digits are to be kept, there are no zeros at the end of the
fraction. -/
def generalText (keepsDigits : Bool) (count significand : Nat) (exponent : Int) : List Char :=
  let count := max count 1
  let (digits, power) := leadingDigits count significand exponent
  let trimmed (text : List Char) : List Char :=
    if keepsDigits then text else dropFractionZeros text
  if power < positionalFloor ∨ power ≥ count then
    trimmed (withPoint keepsDigits (count - 1) digits) ++ exponentText power
  else
    let places := (count - 1 - power).toNat
    trimmed (withPoint keepsDigits places
      (List.replicate (places + 1 - count) '0' ++ digits))

inductive Precision where
  | fixed
  | exponential
  | general

def precise (precision : Precision) (keepsPoint : Bool) (count : Nat) (number : Binary64) :
    List Char :=
  match number.meaning with
  | .notANumber => "nan".toList
  | .infinite negative => (if negative then "-inf" else "inf").toList
  | .finite negative significand exponent =>
    (if negative then ['-'] else []) ++
      match precision with
      | .fixed => fixedText keepsPoint count significand exponent
      | .exponential => exponentialText keepsPoint count significand exponent
      | .general => generalText keepsPoint count significand exponent

def truncate? (number : Binary64) : Option Int :=
  match number.meaning with
  | .finite negative significand exponent =>
    let magnitude : Int :=
      (significand * Nat.pow 2 exponent.toNat / Nat.pow 2 (-exponent).toNat : Nat)
    some (if negative then -magnitude else magnitude)
  | _ => none

end TolerantValidation.Binary64
