import TolerantValidation.Json5.Reader
import TolerantValidation.Proofs.Json.Writing

/-!
Strings that the strict reader takes are taken for the same text, code unit by code unit: the units
of a surrogate pair are joined in the end.
-/

namespace TolerantValidation
namespace Text

theorem joinUnits_cons {unit : Nat} {units : List Nat}
    (alone : ∀ low more, units = low :: more → isHighSurrogate unit = true →
      isLowSurrogate low = false) :
    joinUnits (unit :: units) = unitCharacter unit :: joinUnits units := by
  cases units with
  | nil => rfl
  | cons low more =>
      have notPaired : (isHighSurrogate unit && isLowSurrogate low) = false := by
        cases isHigh : isHighSurrogate unit with
        | false => rfl
        | true => simp [alone low more rfl isHigh]
      simp [joinUnits, notPaired]

theorem joinUnits_pair {high low : Nat} (isHigh : isHighSurrogate high = true)
    (isLow : isLowSurrogate low = true) (units : List Nat) :
    joinUnits (high :: low :: units) = joinSurrogates high low :: joinUnits units := by
  simp [joinUnits, isHigh, isLow]

end Text

namespace Json5

variable {done : List Nat} {rest : List Char}

theorem readUnits_plain {character : Char} (visible : ' ' ≤ character) (noQuote : character ≠ '"')
    (noEscape : character ≠ '\\') :
    readUnits '"' done (character :: rest) = readUnits '"' (character.toNat :: done) rest := by
  have allowed : ¬ (character = '\\' ∨ character = '\n' ∨ character = '\r') := by
    rintro (rfl | rfl | rfl)
    · exact noEscape rfl
    · exact absurd visible (by decide)
    · exact absurd visible (by decide)
  rw [readUnits]
  · rw [if_neg noQuote, if_neg allowed]
  all_goals simp_all

theorem readUnits_unit {a b c d : Char} {unit : Nat} (known : Text.hexUnit? a b c d = some unit) :
    readUnits '"' done ('\\' :: 'u' :: a :: b :: c :: d :: rest) =
      readUnits '"' (unit :: done) rest := by
  rw [readUnits, known]

theorem readUnits_short {escape character : Char}
    (known : Json.shortEscape? escape = some character) :
    readUnits '"' done ('\\' :: escape :: rest) = readUnits '"' (character.toNat :: done) rest := by
  have isEscape := Json.shortEscape?_isSome_iff.mp (Option.isSome_iff_exists.mpr ⟨_, known⟩)
  simp only [Json.shortEscapes, List.mem_cons, List.not_mem_nil, or_false] at isEscape
  rcases isEscape with rfl | rfl | rfl | rfl | rfl | rfl | rfl | rfl <;> cases known <;>
    simp [readUnits, shortEscape?, isLineEnd, Text.isAsciiDigit]

def ComesFromEscape (unit : Nat) (characters : List Char) : Prop :=
  ∃ a b c d later, characters = '\\' :: 'u' :: a :: b :: c :: d :: later ∧
    Text.hexUnit? a b c d = some unit

/-- The units are those of the text up to its closing quote. -/
structure AreUnits (units : List Nat) (characters rest : List Char) : Prop where
  read : ∀ done, readUnits '"' done characters = some (done.reverse ++ units, rest)
  low : ∀ unit later, units = unit :: later → Text.isLowSurrogate unit = true →
    ComesFromEscape unit characters

theorem AreUnits.cons {units : List Nat} {first : Nat} {characters after : List Char}
    (areUnits : AreUnits units after rest)
    (steps : ∀ done, readUnits '"' done characters = readUnits '"' (first :: done) after)
    (low : Text.isLowSurrogate first = true → ComesFromEscape first characters) :
    AreUnits (first :: units) characters rest := by
  constructor
  · intro done
    rw [steps, areUnits.read]
    simp
  · rintro unit later ⟨⟩ isLow
    exact low isLow

theorem AreUnits.joinUnits_cons {units : List Nat} {first : Nat} {after : List Char}
    (areUnits : AreUnits units after rest)
    (alone : Text.isHighSurrogate first = true → ∀ low, Text.isLowSurrogate low = true →
      ¬ ComesFromEscape low after) :
    Text.joinUnits (first :: units) = Text.unitCharacter first :: Text.joinUnits units := by
  apply Text.joinUnits_cons
  intro low more same isHigh
  rw [Bool.eq_false_iff]
  intro isLow
  exact alone isHigh low isLow (areUnits.low low more same isLow)

theorem AreUnits.cons_unit {units : List Nat} {a b c d : Char} {unit : Nat} {after : List Char}
    (areUnits : AreUnits units after rest) (known : Text.hexUnit? a b c d = some unit) :
    AreUnits (unit :: units) ('\\' :: 'u' :: a :: b :: c :: d :: after) rest :=
  areUnits.cons (fun _ => readUnits_unit known) fun _ => ⟨a, b, c, d, after, rfl, known⟩

theorem AreUnits.cons_character {units : List Nat} {character : Char} {characters after : List Char}
    (areUnits : AreUnits units after rest)
    (steps : ∀ done,
      readUnits '"' done characters = readUnits '"' (character.toNat :: done) after) :
    AreUnits (character.toNat :: units) characters rest ∧
      Text.joinUnits (character.toNat :: units) = character :: Text.joinUnits units := by
  obtain ⟨notHigh, notLow⟩ := Text.isSurrogate_toNat character
  rw [Bool.eq_false_iff] at notHigh notLow
  refine ⟨areUnits.cons steps fun isLow => absurd isLow notLow, ?_⟩
  rw [areUnits.joinUnits_cons fun isHigh => absurd isHigh notHigh, Text.unitCharacter_toNat]

theorem exists_areUnits {done characters read rest : List Char}
    (returned : Json.readString done characters = .ok (read, rest)) :
    ∃ units, AreUnits units characters rest ∧ read = done.reverse ++ Text.joinUnits units := by
  -- A pair is one character, so a unit stands alone only if no escape for its partner follows.
  fun_induction Json.readString done characters with
  | case2 done after =>
      cases returned
      refine ⟨[], ⟨fun done => ?_, by simp⟩, by simp [Text.joinUnits]⟩
      rw [readUnits_quote, List.append_nil]
  | case5 done a b c d e f g h after unit known isHigh next nextKnown isLow ih =>
      obtain ⟨units, areUnits, rfl⟩ := ih returned
      refine ⟨_, (areUnits.cons_unit nextKnown).cons_unit known, ?_⟩
      rw [Text.joinUnits_pair isHigh isLow]
      simp
  | case6 done a b c d e f g h after unit known isHigh next nextKnown notLow ih =>
      obtain ⟨units, areUnits, rfl⟩ := ih returned
      refine ⟨_, areUnits.cons_unit known, ?_⟩
      rw [areUnits.joinUnits_cons]
      · simp
      · rintro _ low isLow ⟨_, _, _, _, _, ⟨⟩, lowKnown⟩
        cases nextKnown.symm.trans lowKnown
        exact notLow isLow
  | case7 done a b c d e f g h after unit known notHigh ih =>
      obtain ⟨units, areUnits, rfl⟩ := ih returned
      refine ⟨_, areUnits.cons_unit known, ?_⟩
      rw [areUnits.joinUnits_cons fun isHigh => absurd isHigh notHigh]
      simp
  | case9 done a b c d after last unit known ih =>
      obtain ⟨units, areUnits, rfl⟩ := ih returned
      refine ⟨_, areUnits.cons_unit known, ?_⟩
      rw [areUnits.joinUnits_cons]
      · simp
      · rintro _ low _ ⟨e, f, g, h, later, same, _⟩
        exact last e f g h later same
  | case10 done escape after noPair noUnit character known ih =>
      obtain ⟨units, areUnits, rfl⟩ := ih returned
      obtain ⟨longer, joined⟩ := areUnits.cons_character fun _ => readUnits_short known
      exact ⟨_, longer, by simp [joined]⟩
  | case13 done character after noQuote noPair noUnit noEscape allowed ih =>
      obtain ⟨units, areUnits, rfl⟩ := ih returned
      have visible : ' ' ≤ character := Char.not_lt.mp fun below => allowed (.inl below)
      have noMark : character ≠ '\\' := fun same => allowed (.inr same)
      obtain ⟨longer, joined⟩ :=
        areUnits.cons_character fun _ => readUnits_plain visible noQuote noMark
      exact ⟨_, longer, by simp [joined]⟩
  | _ => cases returned

theorem readString_of_strict {characters read rest : List Char}
    (returned : Json.readString [] characters = .ok (read, rest)) :
    readString '"' characters = some (String.ofList read, rest) := by
  obtain ⟨units, areUnits, rfl⟩ := exists_areUnits returned
  simp [readString, areUnits.read]

end Json5
end TolerantValidation
