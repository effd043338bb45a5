import TolerantValidation.Text.Digit

/-!
Code units of sixteen bits, as escapes in documents give them. Two surrogates in a row stand for one
character above the basic plane. One without its partner is kept as a private character of its own,
from `surrogateStart` on, so that different ones stay different.
-/

namespace TolerantValidation.Text

def isHighSurrogate (unit : Nat) : Bool := 0xD800 ≤ unit && unit < 0xDC00

def isLowSurrogate (unit : Nat) : Bool := 0xDC00 ≤ unit && unit < 0xE000

def joinSurrogates (high low : Nat) : Char :=
  Char.ofNat (0x10000 + (high - 0xD800) * 0x400 + (low - 0xDC00))

def surrogateStart : Nat := 0x10F000

/-- The character for one unit: itself, or what is kept for a surrogate without its partner. -/
def unitCharacter (unit : Nat) : Char :=
  if isHighSurrogate unit || isLowSurrogate unit then Char.ofNat (surrogateStart + (unit - 0xD800))
  else Char.ofNat unit

def isUnpairedSurrogate (character : Char) : Bool :=
  surrogateStart ≤ character.toNat && character.toNat < surrogateStart + 0x800

def codePoint (character : Char) : Nat :=
  if isUnpairedSurrogate character then character.toNat - surrogateStart + 0xD800
  else character.toNat

def joinUnits : List Nat → List Char
  | [] => []
  | [unit] => [unitCharacter unit]
  | high :: low :: rest =>
    if isHighSurrogate high && isLowSurrogate low then joinSurrogates high low :: joinUnits rest
    else unitCharacter high :: joinUnits (low :: rest)

def hexUnit? (first second third fourth : Char) : Option Nat := do
  let a ← hexDigitValue? first
  let b ← hexDigitValue? second
  let c ← hexDigitValue? third
  let d ← hexDigitValue? fourth
  some (((a * 16 + b) * 16 + c) * 16 + d)

end TolerantValidation.Text
