import TolerantValidation.Number.Binary64

/-!
Shortest decimal text of a double-precision number: the fewest digits that read back as the same
number, and of those the nearest. Between `10 ^ -4` and `10 ^ 16` the text is positional, outside it
has an exponent of at least two digits.
-/

namespace TolerantValidation.Binary64

def decimalDigits (number : Nat) : List Char :=
  Nat.toDigits 10 number

structure RoundingInterval where
  low : Nat
  centre : Nat
  high : Nat
  exponent : Int
  closed : Bool

/-- The rounding interval of a finite number. Just above a power of two the lower half
is narrower. -/
def roundingInterval (significand : Nat) (exponent : Int) : RoundingInterval :=
  let narrow := significand = Nat.pow 2 52 ∧ exponent > -1074
  { low := if narrow then 4 * significand - 1 else 4 * significand - 2
    centre := 4 * significand
    high := 4 * significand + 2
    exponent := exponent - 2
    closed := significand % 2 = 0 }

def commonScale (number : Nat) (exponent : Int) (decimal : Nat) (power : Int) : Nat × Nat :=
  (number * Nat.pow 2 exponent.toNat * Nat.pow 10 (-power).toNat,
    decimal * Nat.pow 10 power.toNat * Nat.pow 2 (-exponent).toNat)

def RoundingInterval.holds (interval : RoundingInterval) (decimal : Nat) (power : Int) : Bool :=
  let (low, candidate) := commonScale interval.low interval.exponent decimal power
  let (high, candidateAgain) := commonScale interval.high interval.exponent decimal power
  if interval.closed then low ≤ candidate && candidateAgain ≤ high
  else low < candidate && candidateAgain < high

def RoundingInterval.distance (interval : RoundingInterval) (decimal : Nat) (power : Int) : Nat :=
  let (centre, candidate) := commonScale interval.centre interval.exponent decimal power
  max centre candidate - min centre candidate

def decimalPoint (significand : Nat) (exponent : Int) : Int :=
  let scaled :=
    significand * Nat.pow 2 exponent.toNat * Nat.pow 10 330 / Nat.pow 2 (-exponent).toNat
  ((decimalDigits scaled).length : Int) - 330

def shortestFrom (interval : RoundingInterval) (point : Int) : Nat → Nat → Nat × Int
  | 0, digits =>
    let power := point - digits
    let (centre, unit) := commonScale interval.centre interval.exponent 1 power
    (centre / unit, power)
  | fuel + 1, digits =>
    let power := point - digits
    let (centre, unit) := commonScale interval.centre interval.exponent 1 power
    let lower := centre / unit
    let upper := lower + 1
    match interval.holds lower power, interval.holds upper power with
    | true, true =>
      if interval.distance lower power ≤ interval.distance upper power then (lower, power)
      else (upper, power)
    | true, false => (lower, power)
    | false, true => (upper, power)
    | false, false => shortestFrom interval point fuel (digits + 1)

def shortestDecimal (significand : Nat) (exponent : Int) : Nat × Int :=
  shortestFrom (roundingInterval significand exponent) (decimalPoint significand exponent) 17 1

def dropTrailingZeros (digits : List Char) : List Char :=
  (digits.reverse.dropWhile (· = '0')).reverse

def positionalLimit : Int := 16

def positionalFloor : Int := -4

def exponentText (exponent : Int) : List Char :=
  let digits := decimalDigits exponent.natAbs
  ['e', if exponent < 0 then '-' else '+'] ++ (if digits.length < 2 then '0' :: digits else digits)

/-- Text of `0.digits * 10 ^ point` for digits without a zero at either end. -/
def layout (digits : List Char) (point : Int) : List Char :=
  let exponent := point - 1
  if exponent < positionalFloor ∨ exponent ≥ positionalLimit then
    (match digits with
      | [] => []
      | [digit] => [digit]
      | digit :: rest => digit :: '.' :: rest) ++ exponentText exponent
  else if point ≤ 0 then
    '0' :: '.' :: List.replicate (-point).toNat '0' ++ digits
  else
    let whole := digits.take point.toNat ++ List.replicate (point.toNat - digits.length) '0'
    let fraction := digits.drop point.toNat
    whole ++ '.' :: (if fraction.isEmpty then ['0'] else fraction)

def magnitudeText (significand : Nat) (exponent : Int) : List Char :=
  if significand = 0 then ['0', '.', '0']
  else
    let (decimal, power) := shortestDecimal significand exponent
    let digits := decimalDigits decimal
    layout (dropTrailingZeros digits) (power + digits.length)

def text (number : Binary64) : String :=
  match number.meaning with
  | .notANumber => "nan"
  | .infinite negative => if negative then "-inf" else "inf"
  | .finite negative significand exponent =>
    String.ofList ((if negative then ['-'] else []) ++ magnitudeText significand exponent)

end TolerantValidation.Binary64
