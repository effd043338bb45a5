/-!
Double-precision numbers as 64-bit words. Every operation here is exact arithmetic on the numbers
that the words stand for, followed by one rounding to the nearest word, so nothing depends on the
machine's own floating point.
-/

namespace TolerantValidation

structure Binary64 where
  bits : UInt64
deriving DecidableEq, Inhabited

namespace Binary64

inductive Meaning where
  | notANumber
  | infinite (negative : Bool)
  | finite (negative : Bool) (significand : Nat) (exponent : Int)
deriving DecidableEq

def isNegative (number : Binary64) : Bool :=
  number.bits.toNat ≥ Nat.pow 2 63

def meaning (number : Binary64) : Meaning :=
  let magnitude := number.bits.toNat % Nat.pow 2 63
  let exponentField : Nat := magnitude / Nat.pow 2 52
  let fraction := magnitude % Nat.pow 2 52
  if exponentField = 2047 then
    if fraction = 0 then .infinite number.isNegative else .notANumber
  else if exponentField = 0 then .finite number.isNegative fraction (-1074)
  else .finite number.isNegative (Nat.pow 2 52 + fraction) ((exponentField : Int) - 1075)

def ofMagnitude (negative : Bool) (magnitude : Nat) : Binary64 :=
  ⟨UInt64.ofNat (if negative then Nat.pow 2 63 + magnitude else magnitude)⟩

def infiniteMagnitude : Nat := 2047 * Nat.pow 2 52

def infinity (negative : Bool) : Binary64 := ofMagnitude negative infiniteMagnitude

/-- A word without a number. It stands for an object of its own wherever it occurs, while each of
the other words without a number stands for one object that is shared. -/
def notANumber : Binary64 := ofMagnitude false (infiniteMagnitude + Nat.pow 2 51)

def sharedNotANumber (mark : Nat) : Binary64 :=
  ofMagnitude false (infiniteMagnitude + Nat.pow 2 51 + (mark + 1))

def zero : Binary64 := ofMagnitude false 0

def divideToEven (numerator denominator : Nat) : Nat :=
  let quotient := numerator / denominator
  let remainder := numerator % denominator
  if 2 * remainder > denominator then quotient + 1
  else if 2 * remainder = denominator then quotient + quotient % 2
  else quotient

def scaledQuotient (numerator denominator : Nat) (exponent : Int) : Nat :=
  if exponent ≥ 0 then divideToEven numerator (denominator * Nat.pow 2 exponent.toNat)
  else divideToEven (numerator * Nat.pow 2 (-exponent).toNat) denominator

def unitExponent (numerator denominator : Nat) : Int :=
  let estimate : Int := (numerator.log2 : Int) - denominator.log2 - 52
  let short :=
    if estimate ≥ 0 then
      decide (numerator < Nat.pow 2 52 * (denominator * Nat.pow 2 estimate.toNat))
    else decide (numerator * Nat.pow 2 (-estimate).toNat < Nat.pow 2 52 * denominator)
  max (if short then estimate - 1 else estimate) (-1074)

/-- The number nearest to a quotient of natural numbers; beyond the greatest, an infinity. -/
def ofRatio (negative : Bool) (numerator denominator : Nat) : Binary64 :=
  if numerator = 0 ∨ denominator = 0 then ofMagnitude negative 0
  else
    let exponent := unitExponent numerator denominator
    let significand := scaledQuotient numerator denominator exponent
    -- A carry into the fifty-fourth bit lands in the exponent field, as it should.
    let magnitude := (exponent + 1074).toNat * Nat.pow 2 52 + significand
    ofMagnitude negative (min magnitude infiniteMagnitude)

def isInfinite (number : Binary64) : Bool :=
  match number.meaning with
  | .infinite _ => true
  | _ => false

def isNotANumber (number : Binary64) : Bool :=
  number.meaning = .notANumber

def isSharedNotANumber (number : Binary64) : Bool :=
  number.isNotANumber && number != notANumber

/-- The nearest number to `digits * 10 ^ exponent`. An exponent far outside the range is cut to one
that gives the same answer. -/
def ofDecimal (negative : Bool) (digits : Nat) (exponent : Int) : Binary64 :=
  if digits = 0 then ofMagnitude negative 0
  else if exponent ≥ 0 then
    if exponent > 400 then infinity negative
    else ofRatio negative (digits * Nat.pow 10 exponent.toNat) 1
  else if -exponent > 400 + (digits.log2 : Int) then ofMagnitude negative 0
  else ofRatio negative digits (Nat.pow 10 (-exponent).toNat)

def ofInt (whole : Int) : Binary64 :=
  ofRatio (decide (whole < 0)) whole.natAbs 1

def ofInt? (whole : Int) : Option Binary64 :=
  let number := ofInt whole
  if number.isInfinite then none else some number

def neg (number : Binary64) : Binary64 :=
  if number.isNotANumber then notANumber else ⟨number.bits ^^^ 0x8000000000000000⟩

structure Dyadic where
  signed : Int
  exponent : Int

def dyadic (negative : Bool) (significand : Nat) (exponent : Int) : Dyadic :=
  ⟨if negative then -significand else significand, exponent⟩

def Dyadic.aligned (left right : Dyadic) : Int × Int × Int :=
  let exponent := min left.exponent right.exponent
  (left.signed * Nat.pow 2 (left.exponent - exponent).toNat,
    right.signed * Nat.pow 2 (right.exponent - exponent).toNat, exponent)

def Dyadic.order (left right : Dyadic) : Ordering :=
  let (first, second, _) := left.aligned right
  compare first second

def order? (left right : Binary64) : Option Ordering :=
  match left.meaning, right.meaning with
  | .notANumber, _ => none
  | _, .notANumber => none
  | .infinite leftSign, .infinite rightSign =>
    some (if leftSign = rightSign then .eq else if leftSign then .lt else .gt)
  | .infinite leftSign, .finite .. => some (if leftSign then .lt else .gt)
  | .finite .., .infinite rightSign => some (if rightSign then .gt else .lt)
  | .finite leftSign leftBits leftExponent, .finite rightSign rightBits rightExponent =>
    some ((dyadic leftSign leftBits leftExponent).order (dyadic rightSign rightBits rightExponent))

def orderInt? (left : Binary64) (right : Int) : Option Ordering :=
  match left.meaning with
  | .notANumber => none
  | .infinite leftSign => some (if leftSign then .lt else .gt)
  | .finite leftSign leftBits leftExponent =>
    some ((dyadic leftSign leftBits leftExponent).order ⟨right, 0⟩)

def add (left right : Binary64) : Binary64 :=
  match left.meaning, right.meaning with
  | .notANumber, _ => notANumber
  | _, .notANumber => notANumber
  | .infinite leftSign, .infinite rightSign =>
    if leftSign = rightSign then left else notANumber
  | .infinite _, .finite .. => left
  | .finite .., .infinite _ => right
  | .finite leftSign leftBits leftExponent, .finite rightSign rightBits rightExponent =>
    let (first, second, exponent) :=
      (dyadic leftSign leftBits leftExponent).aligned (dyadic rightSign rightBits rightExponent)
    let total := first + second
    if total = 0 then ofMagnitude (leftSign && rightSign) 0
    else if exponent ≥ 0 then
      ofRatio (decide (total < 0)) (total.natAbs * Nat.pow 2 exponent.toNat) 1
    else ofRatio (decide (total < 0)) total.natAbs (Nat.pow 2 (-exponent).toNat)

def mul (left right : Binary64) : Binary64 :=
  let negative := left.isNegative != right.isNegative
  match left.meaning, right.meaning with
  | .notANumber, _ => notANumber
  | _, .notANumber => notANumber
  | .infinite _, .finite _ significand _ =>
    if significand = 0 then notANumber else infinity negative
  | .finite _ significand _, .infinite _ =>
    if significand = 0 then notANumber else infinity negative
  | .infinite _, .infinite _ => infinity negative
  | .finite _ leftBits leftExponent, .finite _ rightBits rightExponent =>
    let exponent := leftExponent + rightExponent
    if exponent ≥ 0 then ofRatio negative (leftBits * rightBits * Nat.pow 2 exponent.toNat) 1
    else ofRatio negative (leftBits * rightBits) (Nat.pow 2 (-exponent).toNat)

def toInt? (number : Binary64) : Option Int :=
  match number.meaning with
  | .finite negative significand exponent =>
    let signed : Int := if negative then -significand else significand
    if exponent ≥ 0 then some (signed * Nat.pow 2 exponent.toNat)
    else if significand % Nat.pow 2 (-exponent).toNat = 0 then
      some (Int.tdiv signed (Nat.pow 2 (-exponent).toNat))
    else none
  | _ => none

def isZero (number : Binary64) : Bool :=
  number.bits.toNat % Nat.pow 2 63 = 0

end Binary64
end TolerantValidation
