import TolerantValidation.Proofs.Json.Grammar

/-!
Numbers of JSON texts: the reader takes as many characters as the grammar allows, so it ends where a
number ends if nothing that could go on with it follows.
-/

namespace TolerantValidation.Json

def Stops (rest : List Char) : Prop :=
  ∀ character after, rest = character :: after →
    ¬ IsDigit character ∧ character ≠ '.' ∧ character ≠ 'e' ∧ character ≠ 'E'

variable {rest : List Char}

theorem isAsciiDigit_iff {character : Char} :
    Text.isAsciiDigit character = true ↔ IsDigit character := by
  simp [Text.isAsciiDigit, IsDigit]

theorem takeWhile_digits {digits : List Char} (all : ∀ digit ∈ digits, IsDigit digit)
    (ends : ∀ character after, rest = character :: after → ¬ IsDigit character) :
    (digits ++ rest).takeWhile Text.isAsciiDigit = digits ∧
      (digits ++ rest).dropWhile Text.isAsciiDigit = rest := by
  have each : ∀ digit ∈ digits, Text.isAsciiDigit digit = true :=
    fun digit member => isAsciiDigit_iff.mpr (all digit member)
  rw [List.takeWhile_append_of_pos each, List.dropWhile_append_of_pos each]
  cases rest with
  | nil => simp
  | cons character after =>
      have noDigit : Text.isAsciiDigit character = false := by
        rw [Bool.eq_false_iff, Ne, isAsciiDigit_iff]
        exact ends character after rfl
      simp [noDigit]

theorem areDigits_takeWhile {characters : List Char}
    (some : (characters.takeWhile Text.isAsciiDigit).isEmpty = false) :
    AreDigits (characters.takeWhile Text.isAsciiDigit) :=
  ⟨by simpa using some, fun digit member =>
    isAsciiDigit_iff.mp (List.all_eq_true.mp List.all_takeWhile digit member)⟩

theorem one_le_of_isDigit {digit : Char} (isDigit : IsDigit digit) (notZero : digit ≠ '0') :
    '1' ≤ digit := by
  apply Char.not_lt.mp
  intro below
  have lower : '0'.toNat ≤ digit.toNat := isDigit.1
  have upper : digit.toNat < '1'.toNat := below
  have zero : '0'.toNat = 48 := rfl
  have one : '1'.toNat = 49 := rfl
  exact notZero (Char.toNat_inj.mp (by omega))

theorem IsWhole.exists_digit {whole : List Char} (isWhole : IsWhole whole) :
    ∃ first after, whole = first :: after ∧ IsDigit first := by
  cases isWhole with
  | zero => exact ⟨'0', [], rfl, by unfold IsDigit; decide⟩
  | digits least most _ => exact ⟨_, _, rfl, Char.le_trans (by decide) least, most⟩

theorem splitWhole_append {whole : List Char} (isWhole : IsWhole whole)
    (ends : ∀ character after, rest = character :: after → ¬ IsDigit character) :
    splitWhole (whole ++ rest) = (whole, rest) := by
  cases isWhole with
  | zero => rfl
  | @digits first digits least most others =>
      have all : ∀ digit ∈ first :: digits, IsDigit digit :=
        List.forall_mem_cons.mpr ⟨⟨Char.le_trans (by decide) least, most⟩, others⟩
      unfold splitWhole
      split
      · rename_i same
        rw [List.cons_append, List.cons.injEq] at same
        rw [same.1] at least
        exact absurd least (by decide)
      · rw [(takeWhile_digits all ends).1, (takeWhile_digits all ends).2]

theorem isWhole_of_splitWhole {characters whole : List Char}
    (parts : splitWhole characters = (whole, rest)) (some : whole.isEmpty = false) :
    IsWhole whole ∧ characters = whole ++ rest := by
  unfold splitWhole at parts
  split at parts
  · cases parts
    exact ⟨.zero, rfl⟩
  · rename_i notZero
    cases parts
    refine ⟨?_, List.takeWhile_append_dropWhile.symm⟩
    obtain ⟨_, all⟩ := areDigits_takeWhile some
    cases characters with
    | nil => cases some
    | cons first after =>
        by_cases isDigit : Text.isAsciiDigit first
        · rw [List.takeWhile_cons_of_pos isDigit] at all ⊢
          obtain ⟨firstIsDigit, others⟩ := List.forall_mem_cons.mp all
          refine .digits (one_le_of_isDigit firstIsDigit ?_) firstIsDigit.2 others
          rintro rfl
          exact notZero after rfl
        · rw [List.takeWhile_cons_of_neg isDigit] at some
          cases some

theorem splitFraction_of_noPoint (ends : ∀ after, rest ≠ '.' :: after) :
    splitFraction rest = (none, rest) := by
  unfold splitFraction
  split
  · exact absurd rfl (ends _)
  · rfl

theorem splitFraction_append {fraction : List Char} (isFraction : IsFraction fraction)
    (ends : ∀ character after, rest = character :: after →
      ¬ IsDigit character ∧ character ≠ '.') :
    ∃ found, splitFraction (fraction ++ rest) = (found, rest) ∧
      (found = none → fraction = []) := by
  cases isFraction with
  | absent =>
      have noPoint := splitFraction_of_noPoint fun after same => (ends '.' after same).2 rfl
      exact ⟨none, noPoint, fun _ => rfl⟩
  | @point digits areDigits =>
      obtain ⟨taken, dropped⟩ := takeWhile_digits areDigits.2 fun character after same =>
        (ends character after same).1
      have some : digits.isEmpty = false := by simpa using areDigits.1
      refine ⟨.some digits, ?_, nofun⟩
      simp only [List.cons_append, splitFraction, taken, dropped, some]
      rfl

theorem splitSign_append {sign digits : List Char} (isSign : sign ∈ [[], ['+'], ['-']])
    (areDigits : AreDigits digits) (rest : List Char) :
    ∃ negative, Number.splitSign (sign ++ digits ++ rest) = (negative, digits ++ rest) := by
  simp only [List.mem_cons, List.not_mem_nil, or_false] at isSign
  rcases isSign with rfl | rfl | rfl
  · obtain ⟨some, all⟩ := areDigits
    cases digits with
    | nil => exact absurd rfl some
    | cons first others =>
        obtain ⟨isDigit, _⟩ := List.forall_mem_cons.mp all
        refine ⟨false, ?_⟩
        simp only [List.nil_append, List.cons_append]
        unfold Number.splitSign
        split
        · rename_i same
          cases same
          exact absurd isDigit (by unfold IsDigit; decide)
        · rename_i same
          cases same
          exact absurd isDigit (by unfold IsDigit; decide)
        · rfl
  · exact ⟨false, rfl⟩
  · exact ⟨true, rfl⟩

theorem splitExponent_of_stops (stops : Stops rest) : splitExponent rest = (none, rest) := by
  cases rest with
  | nil => rfl
  | cons character after =>
      obtain ⟨_, _, notSmall, notBig⟩ := stops character after rfl
      simp [splitExponent, notSmall, notBig]

theorem splitExponent_append {exponent : List Char} (isExponent : IsExponent exponent)
    (stops : Stops rest) :
    ∃ found, splitExponent (exponent ++ rest) = (found, rest) ∧
      (found = none → exponent = []) := by
  cases isExponent with
  | absent => exact ⟨none, splitExponent_of_stops stops, fun _ => rfl⟩
  | @mark mark sign digits isMark isSign areDigits =>
      obtain ⟨negative, signSplit⟩ := splitSign_append isSign areDigits rest
      obtain ⟨taken, dropped⟩ := takeWhile_digits areDigits.2 fun character after same =>
        (stops character after same).1
      have some : digits.isEmpty = false := by simpa using areDigits.1
      have marks : mark = 'e' ∨ mark = 'E' := by simpa using isMark
      refine ⟨.some (negative, digits), ?_, nofun⟩
      simp only [List.cons_append, splitExponent, marks, if_true, signSplit, taken, dropped, some]
      rfl

theorem IsExponent.ends {exponent : List Char} (isExponent : IsExponent exponent)
    (stops : Stops rest) : ∀ character after, exponent ++ rest = character :: after →
      ¬ IsDigit character ∧ character ≠ '.' := by
  intro character after same
  cases isExponent with
  | absent =>
      obtain ⟨noDigit, noPoint, _⟩ := stops character after same
      exact ⟨noDigit, noPoint⟩
  | mark isMark _ _ =>
      cases same
      have marks : character = 'e' ∨ character = 'E' := by simpa using isMark
      rcases marks with rfl | rfl <;> (unfold IsDigit; decide)

theorem IsFraction.ends {fraction : List Char} (isFraction : IsFraction fraction)
    (ends : ∀ character after, rest = character :: after →
      ¬ IsDigit character ∧ character ≠ '.') :
    ∀ character after, fraction ++ rest = character :: after → ¬ IsDigit character := by
  intro character after same
  cases isFraction with
  | absent => exact (ends character after same).1
  | point _ =>
      cases same
      unfold IsDigit
      decide

theorem IsWhole.isEmpty {whole : List Char} (isWhole : IsWhole whole) : whole.isEmpty = false := by
  cases isWhole <;> rfl

theorem readNumber_whole {whole : List Char} (isWhole : IsWhole whole)
    (short : whole.length ≤ digitLimit) (stops : Stops rest) (negative : Bool) :
    readNumber negative (whole ++ rest) =
      .ok (.int (Number.signed negative (Number.ofDecimalDigits whole)), rest) := by
  have wholeSplit := splitWhole_append isWhole fun character after same =>
    (stops character after same).1
  have fractionSplit := splitFraction_of_noPoint fun after same => (stops '.' after same).2.1 rfl
  have fits : ¬ whole.length > digitLimit := Nat.not_lt.mpr short
  simp only [readNumber, wholeSplit, isWhole.isEmpty, Bool.false_eq_true, if_false, fractionSplit,
    splitExponent_of_stops stops, fits]

theorem IsMagnitude.exists_read {magnitude : List Char}
    (isMagnitude : IsMagnitude digitLimit magnitude) (stops : Stops rest) (negative : Bool) :
    ∃ value, readNumber negative (magnitude ++ rest) = .ok (value, rest) := by
  obtain @⟨whole, fraction, exponent, isWhole, isFraction, isExponent, short⟩ := isMagnitude
  have exponentEnds := isExponent.ends stops
  have wholeSplit := splitWhole_append isWhole (isFraction.ends exponentEnds)
  obtain ⟨foundFraction, fractionSplit, fractionAbsent⟩ :=
    splitFraction_append isFraction exponentEnds
  obtain ⟨foundExponent, exponentSplit, exponentAbsent⟩ := splitExponent_append isExponent stops
  simp only [List.append_assoc, readNumber, wholeSplit, isWhole.isEmpty, Bool.false_eq_true,
    if_false, fractionSplit, exponentSplit]
  cases foundFraction with
  | some digits => exact ⟨_, rfl⟩
  | none =>
      cases foundExponent with
      | some found => exact ⟨_, rfl⟩
      | none =>
          have fits := short (fractionAbsent rfl) (exponentAbsent rfl)
          simp only [Nat.not_lt.mpr fits, if_false]
          exact ⟨_, rfl⟩

theorem isFraction_of_splitFraction {characters : List Char} {found : Option (List Char)}
    (parts : splitFraction characters = (found, rest)) :
    ∃ fraction, IsFraction fraction ∧ characters = fraction ++ rest ∧
      (fraction = [] → found = none) := by
  unfold splitFraction at parts
  split at parts
  · rename_i after
    dsimp only at parts
    split at parts
    · cases parts
      exact ⟨[], .absent, rfl, fun _ => rfl⟩
    · rename_i some
      cases parts
      refine ⟨_, .point (areDigits_takeWhile (Bool.eq_false_iff.mpr some)), ?_, nofun⟩
      rw [List.cons_append, List.takeWhile_append_dropWhile]
  · cases parts
    exact ⟨[], .absent, rfl, fun _ => rfl⟩

theorem isSign_of_splitSign {characters after : List Char} {negative : Bool}
    (parts : Number.splitSign characters = (negative, after)) :
    ∃ sign, sign ∈ [[], ['+'], ['-']] ∧ characters = sign ++ after := by
  unfold Number.splitSign at parts
  split at parts
  · cases parts
    exact ⟨['-'], by simp, rfl⟩
  · cases parts
    exact ⟨['+'], by simp, rfl⟩
  · cases parts
    exact ⟨[], by simp, rfl⟩

theorem isExponent_of_splitExponent {characters : List Char} {found : Option (Bool × List Char)}
    (parts : splitExponent characters = (found, rest)) :
    ∃ exponent, IsExponent exponent ∧ characters = exponent ++ rest ∧
      (exponent = [] → found = none) := by
  unfold splitExponent at parts
  split at parts
  · rename_i mark after
    split at parts
    · rename_i isMark
      generalize signSplit : Number.splitSign after = signed at parts
      obtain ⟨negative, unsigned⟩ := signed
      obtain ⟨sign, isSign, rfl⟩ := isSign_of_splitSign signSplit
      dsimp only at parts
      split at parts
      · cases parts
        exact ⟨[], .absent, rfl, fun _ => rfl⟩
      · rename_i some
        cases parts
        refine ⟨_, .mark (by simpa using isMark) isSign
          (areDigits_takeWhile (Bool.eq_false_iff.mpr some)), ?_, nofun⟩
        rw [List.cons_append, List.append_assoc, List.takeWhile_append_dropWhile]
    · cases parts
      exact ⟨[], .absent, rfl, fun _ => rfl⟩
  · cases parts
    exact ⟨[], .absent, rfl, fun _ => rfl⟩

theorem exists_isMagnitude {negative : Bool} {characters : List Char} {value : Value}
    (returned : readNumber negative characters = .ok (value, rest)) :
    ∃ magnitude, IsMagnitude digitLimit magnitude ∧ characters = magnitude ++ rest := by
  obtain ⟨whole, afterWhole, wholeSplit⟩ :
      ∃ whole after, splitWhole characters = (whole, after) := ⟨_, _, rfl⟩
  obtain ⟨foundFraction, afterFraction, fractionSplit⟩ :
      ∃ found after, splitFraction afterWhole = (found, after) := ⟨_, _, rfl⟩
  obtain ⟨foundExponent, afterExponent, exponentSplit⟩ :
      ∃ found after, splitExponent afterFraction = (found, after) := ⟨_, _, rfl⟩
  simp only [readNumber, wholeSplit, fractionSplit, exponentSplit] at returned
  split at returned
  · cases returned
  · rename_i some
    obtain ⟨isWhole, rfl⟩ := isWhole_of_splitWhole wholeSplit (Bool.eq_false_iff.mpr some)
    obtain ⟨fraction, isFraction, rfl, noFraction⟩ := isFraction_of_splitFraction fractionSplit
    obtain ⟨exponent, isExponent, rfl, noExponent⟩ := isExponent_of_splitExponent exponentSplit
    split at returned
    · split at returned
      · cases returned
      · rename_i fits
        cases returned
        exact ⟨_, .mk isWhole isFraction isExponent fun _ _ => Nat.not_lt.mp fits, by simp⟩
    · rename_i real
      cases returned
      refine ⟨_, .mk isWhole isFraction isExponent fun fractionEq exponentEq => ?_, by simp⟩
      exact (real (noFraction fractionEq) (noExponent exponentEq)).elim

end TolerantValidation.Json
