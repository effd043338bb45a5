import TolerantValidation.Text.CodeRange

/-!
Blank characters: the separators, line ends and information separators of Unicode, the set that
template removal and timestamps mean by white space.
-/

namespace TolerantValidation.Text

def blankRanges : List CodeRange :=
  [(0x9, 0xd), (0x1c, 0x20), (0x85, 0x85), (0xa0, 0xa0), (0x1680, 0x1680), (0x2000, 0x200a),
   (0x2028, 0x2029), (0x202f, 0x202f), (0x205f, 0x205f), (0x3000, 0x3000)]

def isBlank (character : Char) : Bool :=
  inRanges blankRanges character.toNat

/-- Whether the character has the white space property: it is blank and no information separator. -/
def isSpace (character : Char) : Bool :=
  isBlank character && !(0x1c ≤ character.toNat && character.toNat ≤ 0x1f)

def trim (isDropped : Char → Bool) (characters : List Char) : List Char :=
  ((characters.dropWhile isDropped).reverse.dropWhile isDropped).reverse

theorem isBlank_eq_false_of_visible {character : Char} (least : '!' ≤ character)
    (most : character ≤ '~') : isBlank character = false := by
  have lower : 33 ≤ character.toNat := least
  have upper : character.toNat ≤ 126 := most
  rw [isBlank, Bool.eq_false_iff, Ne, inRanges_iff]
  simp only [blankRanges, List.mem_cons, List.not_mem_nil, or_false, exists_eq_or_imp,
    exists_eq_left]
  omega

end TolerantValidation.Text
