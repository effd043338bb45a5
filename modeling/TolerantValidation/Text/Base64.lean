import TolerantValidation.Text.CodeRange

/-!
Octets in groups of six bits. Characters outside the alphabet are passed over; padding ends the text
once it completes a group of four.
-/

namespace TolerantValidation.Text

def sextet? (character : Char) : Option Nat :=
  if 'A' ≤ character ∧ character ≤ 'Z' then some (character.toNat - 'A'.toNat)
  else if 'a' ≤ character ∧ character ≤ 'z' then some (character.toNat - 'a'.toNat + 26)
  else if '0' ≤ character ∧ character ≤ '9' then some (character.toNat - '0'.toNat + 52)
  else if character = '+' then some 62
  else if character = '/' then some 63
  else none

/-- The octets that a text stands for. The octets read so far are given in reverse; of the present
group `phase` characters have been read, which leave the bits `carried`, and `pads` padding
characters have followed them. -/
def octetsFrom (phase carried pads : Nat) (done : List UInt8) : List Char → Option (List UInt8)
  | [] => if phase = 0 then some done.reverse else none
  | '=' :: rest =>
    if phase < 2 then octetsFrom phase carried pads done rest
    else if phase + pads + 1 ≥ 4 then some done.reverse
    else octetsFrom phase carried (pads + 1) done rest
  | character :: rest =>
    match sextet? character with
    | none => octetsFrom phase carried pads done rest
    | some bits =>
      match phase with
      | 0 => octetsFrom 1 bits 0 done rest
      | 1 => octetsFrom 2 (bits % 16) 0 (UInt8.ofNat (carried * 4 + bits / 16) :: done) rest
      | 2 => octetsFrom 3 (bits % 4) 0 (UInt8.ofNat (carried * 16 + bits / 4) :: done) rest
      | _ => octetsFrom 0 0 0 (UInt8.ofNat (carried * 64 + bits) :: done) rest

def octetsOfBase64? (text : List Char) : Option (List UInt8) :=
  octetsFrom 0 0 0 [] text

end TolerantValidation.Text
