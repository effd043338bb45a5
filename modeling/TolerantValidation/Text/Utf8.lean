/-!
Octets as text: the characters that octets stand for in UTF-8. What is not well-formed is replaced;
a sequence that breaks off is replaced as one.
-/

namespace TolerantValidation.Text

structure Utf8Lead where
  following : Nat
  code : Nat
  /-- The least and the greatest second octet, so that each character has one form only and no
  surrogate has any. -/
  least : Nat := 0x80
  greatest : Nat := 0xBF

def utf8Lead? (octet : Nat) : Option Utf8Lead :=
  if octet < 0x80 then some { following := 0, code := octet }
  else if octet < 0xC2 then none
  else if octet < 0xE0 then some { following := 1, code := octet - 0xC0 }
  else if octet = 0xE0 then some { following := 2, code := 0, least := 0xA0 }
  else if octet = 0xED then some { following := 2, code := 0xD, greatest := 0x9F }
  else if octet < 0xF0 then some { following := 2, code := octet - 0xE0 }
  else if octet = 0xF0 then some { following := 3, code := 0, least := 0x90 }
  else if octet < 0xF4 then some { following := 3, code := octet - 0xF0 }
  else if octet = 0xF4 then some { following := 3, code := 4, greatest := 0x8F }
  else none

def utf8Following (least greatest : Nat) (code : Nat) : Nat → List UInt8 → Option Nat × List UInt8
  | 0, octets => (some code, octets)
  | _ + 1, [] => (none, [])
  | following + 1, octet :: rest =>
    if least ≤ octet.toNat ∧ octet.toNat ≤ greatest then
      utf8Following 0x80 0xBF (code * 64 + (octet.toNat - 0x80)) following rest
    else (none, octet :: rest)

theorem length_utf8Following (least greatest code following : Nat) (octets : List UInt8) :
    (utf8Following least greatest code following octets).2.length ≤ octets.length := by
  induction following generalizing least greatest code octets with
  | zero => exact Nat.le_refl _
  | succ following ih =>
    cases octets with
    | nil => exact Nat.le_refl _
    | cons octet rest =>
      simp only [utf8Following]
      split
      · exact Nat.le_succ_of_le (ih ..)
      · exact Nat.le_refl _

def utf8Characters : List UInt8 → List Char
  | [] => []
  | octet :: rest =>
    match utf8Lead? octet.toNat with
    | none => '\uFFFD' :: utf8Characters rest
    | some lead =>
      let read := utf8Following lead.least lead.greatest lead.code lead.following rest
      (read.1.map Char.ofNat).getD '\uFFFD' :: utf8Characters read.2
termination_by octets => octets.length
decreasing_by
  · simp
  · exact Nat.lt_succ_of_le (length_utf8Following ..)

end TolerantValidation.Text
