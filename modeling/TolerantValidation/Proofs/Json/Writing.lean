import TolerantValidation.Json.Writer
import TolerantValidation.Proofs.Json.Steps

/-!
What the writer makes of characters and whole numbers: printable ASCII that the reader takes back.
-/

namespace TolerantValidation

namespace Text

theorem hexDigitValue?_digitChar {digit : Nat} (isDigit : digit < 16) :
    hexDigitValue? digit.digitChar = some digit := by
  have each : ∀ digit < 16, hexDigitValue? (Nat.digitChar digit) = some digit := by decide
  exact each digit isDigit

theorem hexPadded_succ {width : Nat} (some : 0 < width) (number : Nat) :
    hexPadded (width + 1) number = hexPadded width (number / 16) ++ [(number % 16).digitChar] := by
  unfold hexPadded
  by_cases small : number < 16
  · rw [Nat.toDigits_of_lt_base small, Nat.div_eq_of_lt small, Nat.mod_eq_of_lt small,
      Nat.toDigits_zero]
    obtain ⟨less, rfl⟩ := Nat.exists_eq_add_one.mpr some
    simp [List.replicate_succ']
  · rw [Nat.toDigits_of_base_le (by decide) (Nat.not_lt.mp small)]
    simp

theorem hexPadded_four {unit : Nat} (isUnit : unit < 0x10000) :
    hexPadded 4 unit =
      [(unit / 16 / 16 / 16).digitChar, (unit / 16 / 16 % 16).digitChar,
        (unit / 16 % 16).digitChar, (unit % 16).digitChar] := by
  have first : hexPadded 1 (unit / 16 / 16 / 16) = [(unit / 16 / 16 / 16).digitChar] := by
    rw [hexPadded, Nat.toDigits_of_lt_base (by omega)]
    rfl
  rw [hexPadded_succ (by decide), hexPadded_succ (by decide), hexPadded_succ (by decide), first]
  rfl

theorem hexUnit?_digitChar {unit : Nat} (isUnit : unit < 0x10000) :
    hexUnit? (unit / 16 / 16 / 16).digitChar (unit / 16 / 16 % 16).digitChar
      (unit / 16 % 16).digitChar (unit % 16).digitChar = some unit := by
  have whole : ((unit / 16 / 16 / 16 * 16 + unit / 16 / 16 % 16) * 16 + unit / 16 % 16) * 16 +
      unit % 16 = unit := by omega
  rw [hexUnit?, hexDigitValue?_digitChar (by omega), hexDigitValue?_digitChar (by omega),
    hexDigitValue?_digitChar (by omega), hexDigitValue?_digitChar (by omega)]
  exact congrArg some whole

theorem joinSurrogates_toNat {character : Char} (above : 0x10000 ≤ character.toNat) :
    joinSurrogates (0xD800 + (character.toNat - 0x10000) / 0x400)
      (0xDC00 + (character.toNat - 0x10000) % 0x400) = character := by
  unfold joinSurrogates
  rw [show 0x10000 + (0xD800 + (character.toNat - 0x10000) / 0x400 - 0xD800) * 0x400 +
    (0xDC00 + (character.toNat - 0x10000) % 0x400 - 0xDC00) = character.toNat by omega]
  exact Char.ofNat_toNat character

theorem toNat_valid (character : Char) :
    character.toNat < 0xD800 ∨ 0xDFFF < character.toNat ∧ character.toNat < 0x110000 :=
  character.valid

theorem isSurrogate_toNat (character : Char) :
    isHighSurrogate character.toNat = false ∧ isLowSurrogate character.toNat = false := by
  have valid := toNat_valid character
  simp only [isHighSurrogate, isLowSurrogate, Bool.and_eq_false_iff, decide_eq_false_iff_not]
  omega

theorem unitCharacter_toNat (character : Char) : unitCharacter character.toNat = character := by
  obtain ⟨notHigh, notLow⟩ := isSurrogate_toNat character
  simp only [unitCharacter, notHigh, notLow, Bool.or_self, Bool.false_eq_true, if_false]
  exact Char.ofNat_toNat character

theorem surrogates_toNat {character : Char} (above : 0x10000 ≤ character.toNat) :
    isHighSurrogate (0xD800 + (character.toNat - 0x10000) / 0x400) = true ∧
      isLowSurrogate (0xDC00 + (character.toNat - 0x10000) % 0x400) = true := by
  have valid := toNat_valid character
  simp only [isHighSurrogate, isLowSurrogate, Bool.and_eq_true, decide_eq_true_eq]
  omega

end Text

namespace Json

variable {done rest : List Char}

theorem readString_unitEscape {unit : Nat} (isUnit : unit < 0x10000)
    (notHigh : Text.isHighSurrogate unit = false) :
    readString done (unitEscape unit ++ rest) =
      readString (Text.unitCharacter unit :: done) rest := by
  rw [unitEscape, Text.hexPadded_four isUnit]
  exact readString_unit (Text.hexUnit?_digitChar isUnit) (by simp [notHigh])

theorem readString_unitEscapes {high low : Nat} (isHigh : Text.isHighSurrogate high = true)
    (isLow : Text.isLowSurrogate low = true) :
    readString done (unitEscape high ++ unitEscape low ++ rest) =
      readString (Text.joinSurrogates high low :: done) rest := by
  have highIsUnit : high < 0x10000 := by
    simp only [Text.isHighSurrogate, Bool.and_eq_true, decide_eq_true_eq] at isHigh
    omega
  have lowIsUnit : low < 0x10000 := by
    simp only [Text.isLowSurrogate, Bool.and_eq_true, decide_eq_true_eq] at isLow
    omega
  rw [unitEscape, unitEscape, Text.hexPadded_four highIsUnit, Text.hexPadded_four lowIsUnit]
  exact readString_pair (Text.hexUnit?_digitChar highIsUnit) isHigh
    (Text.hexUnit?_digitChar lowIsUnit) isLow

theorem readString_writtenCharacter (character : Char) :
    readString done (writtenCharacter character ++ rest) =
      readString (character :: done) rest := by
  unfold writtenCharacter
  dsimp only
  iterate 7
    split
    · subst character
      exact readString_short rfl
  split
  · rename_i visible
    exact readString_plain visible.1 ‹_› ‹_›
  split
  · rename_i isUnit
    rw [readString_unitEscape isUnit (Text.isSurrogate_toNat character).1,
      Text.unitCharacter_toNat]
  · rename_i beyond
    have above := Nat.not_lt.mp beyond
    obtain ⟨isHigh, isLow⟩ := Text.surrogates_toNat above
    rw [readString_unitEscapes isHigh isLow, Text.joinSurrogates_toNat above]

theorem readString_written (characters : List Char) :
    readString done (characters.flatMap writtenCharacter ++ '"' :: rest) =
      .ok (done.reverse ++ characters, rest) := by
  induction characters generalizing done with
  | nil => simpa using readString_quote
  | cons character characters ih =>
      rw [List.flatMap_cons, List.append_assoc, readString_writtenCharacter, ih]
      simp

def IsPrintable (character : Char) : Prop :=
  ' ' ≤ character ∧ character ≤ '~'

theorem isPrintable_digitChar {digit : Nat} (isDigit : digit < 16) :
    IsPrintable digit.digitChar := by
  have each : ∀ digit < 16, ' ' ≤ Nat.digitChar digit ∧ Nat.digitChar digit ≤ '~' := by decide
  exact each digit isDigit

theorem isPrintable_unitEscape {unit : Nat} (isUnit : unit < 0x10000) :
    ∀ character ∈ unitEscape unit, IsPrintable character := by
  have marks : IsPrintable '\\' ∧ IsPrintable 'u' := by
    unfold IsPrintable
    decide
  rw [unitEscape, Text.hexPadded_four isUnit]
  simp only [List.forall_mem_cons, List.not_mem_nil, false_implies, implies_true, and_true]
  exact ⟨marks.1, marks.2, isPrintable_digitChar (by omega), isPrintable_digitChar (by omega),
    isPrintable_digitChar (by omega), isPrintable_digitChar (by omega)⟩

theorem isPrintable_writtenCharacter (character : Char) :
    ∀ written ∈ writtenCharacter character, IsPrintable written := by
  unfold writtenCharacter
  dsimp only
  iterate 7
    split
    · simp [IsPrintable]
  split
  · rename_i visible
    rw [List.forall_mem_singleton]
    exact ⟨visible.1, Nat.le_of_lt_succ visible.2⟩
  split
  · rename_i isUnit
    exact isPrintable_unitEscape isUnit
  · rename_i beyond
    have valid := Text.toNat_valid character
    rw [List.forall_mem_append]
    exact ⟨isPrintable_unitEscape (by omega), isPrintable_unitEscape (by omega)⟩

theorem isPrintable_writtenString (characters : List Char) :
    ∀ written ∈ writtenString characters, IsPrintable written := by
  have quote : IsPrintable '"' := by
    unfold IsPrintable
    decide
  simp only [writtenString, List.cons_append, List.forall_mem_cons, List.forall_mem_append,
    List.mem_flatMap, List.not_mem_nil, false_implies, implies_true, and_true]
  refine ⟨quote, ?_, quote⟩
  rintro written ⟨character, _, member⟩
  exact isPrintable_writtenCharacter character written member

section Whole

theorem isDigit_of_mem_toDigits {number : Nat} {digit : Char}
    (member : digit ∈ Nat.toDigits 10 number) : IsDigit digit := by
  have isDigit := Nat.isDigit_of_mem_toDigits (by decide) (by decide) member
  simpa [Char.isDigit, IsDigit, Char.le_def] using isDigit

theorem ofDecimalDigits_eq {digits : List Char} (all : ∀ digit ∈ digits, IsDigit digit) :
    Number.ofDecimalDigits digits = Nat.ofDigitChars 10 digits 0 := by
  have folded : ∀ start, (digits.filterMap Text.asciiDigitValue?).foldl
      (fun number digit => number * 10 + digit) start = Nat.ofDigitChars 10 digits start := by
    induction digits with
    | nil => simp
    | cons digit digits ih =>
        intro start
        obtain ⟨isDigit, others⟩ := List.forall_mem_cons.mp all
        have value : Text.asciiDigitValue? digit = some (digit.toNat - '0'.toNat) :=
          if_pos isDigit
        rw [List.filterMap_cons_some value, List.foldl_cons, ih others, Nat.ofDigitChars_cons,
          Nat.mul_comm]
  exact folded 0

theorem toDigits_first {number : Nat} (positive : 0 < number) :
    ∃ first rest, Nat.toDigits 10 number = first :: rest ∧ first ≠ '0' := by
  induction number using Nat.base_induction 10 (by decide) with
  | single digit isDigit =>
      refine ⟨_, _, Nat.toDigits_of_lt_base isDigit, ?_⟩
      rw [Ne, Nat.digitChar_eq_zero]
      omega
  | digit number digit isDigit some ih =>
      obtain ⟨first, rest, same, notZero⟩ := ih some
      rw [← Nat.toDigits_append_toDigits (by decide) some isDigit, same]
      exact ⟨first, _, rfl, notZero⟩

theorem isWhole_toDigits (number : Nat) : IsWhole (Nat.toDigits 10 number) := by
  rcases Nat.eq_zero_or_pos number with rfl | positive
  · rw [Nat.toDigits_zero]
    exact .zero
  · obtain ⟨first, rest, same, notZero⟩ := toDigits_first positive
    have all : ∀ digit ∈ first :: rest, IsDigit digit :=
      same ▸ fun digit member => isDigit_of_mem_toDigits member
    obtain ⟨isDigit, others⟩ := List.forall_mem_cons.mp all
    rw [same]
    exact .digits (one_le_of_isDigit isDigit notZero) isDigit.2 others

theorem readNumber_toDigits {number : Nat} (short : number < Nat.pow 10 digitLimit)
    (stops : Stops rest) (negative : Bool) :
    readNumber negative (Nat.toDigits 10 number ++ rest) =
      .ok (.int (Number.signed negative number), rest) := by
  rw [Nat.pow_eq] at short
  have fits := (Nat.length_toDigits_le_iff (by decide) (by decide)).mpr short
  rw [readNumber_whole (isWhole_toDigits number) fits stops,
    ofDecimalDigits_eq fun digit member => isDigit_of_mem_toDigits member,
    Nat.ofDigitChars_ten_toDigits]

def writtenWhole (whole : Int) : List Char :=
  (if whole < 0 then ['-'] else []) ++ Nat.toDigits 10 whole.natAbs

theorem wholeText_of_short {whole : Int} (short : whole.natAbs < Nat.pow 10 digitLimit) :
    wholeText whole = .ok (writtenWhole whole) :=
  if_pos short

theorem readScalar_writtenWhole {whole : Int} (short : whole.natAbs < Nat.pow 10 digitLimit)
    (stops : Stops rest) :
    readScalar (writtenWhole whole ++ rest) = .ok (.int whole, rest) := by
  obtain ⟨first, after, digits, isDigit⟩ := (isWhole_toDigits whole.natAbs).exists_digit
  have read (negative : Bool) := readNumber_toDigits short stops negative
  rw [digits] at read
  unfold writtenWhole
  rw [digits]
  split
  · have same : Number.signed true whole.natAbs = whole := by
      rw [Number.signed, if_pos rfl]
      omega
    exact (readScalar_negative isDigit _).trans ((read true).trans (by rw [same]))
  · have same : Number.signed false whole.natAbs = whole := by
      rw [Number.signed, if_neg (by decide)]
      omega
    exact (readScalar_digit isDigit _).trans ((read false).trans (by rw [same]))

theorem writtenWhole_first (whole : Int) :
    ∃ first after, writtenWhole whole = first :: after ∧ (first = '-' ∨ IsDigit first) := by
  obtain ⟨first, after, digits, isDigit⟩ := (isWhole_toDigits whole.natAbs).exists_digit
  unfold writtenWhole
  split
  · exact ⟨'-', _, rfl, .inl rfl⟩
  · exact ⟨first, after, digits, .inr isDigit⟩

theorem isPrintable_writtenWhole (whole : Int) :
    ∀ written ∈ writtenWhole whole, IsPrintable written := by
  have digits : ∀ digit ∈ Nat.toDigits 10 whole.natAbs, IsPrintable digit := by
    intro digit member
    obtain ⟨least, most⟩ := isDigit_of_mem_toDigits member
    exact ⟨Char.le_trans (by decide) least, Char.le_trans most (by decide)⟩
  have sign : IsPrintable '-' := by
    unfold IsPrintable
    decide
  unfold writtenWhole
  split
  · exact List.forall_mem_cons.mpr ⟨sign, digits⟩
  · exact digits

end Whole

end Json
end TolerantValidation
