import TolerantValidation.Proofs.Json5.Gaps

/-!
Numbers that the strict reader takes are taken for the same number, whole or real, if nothing
follows that a number in either notation could go on with.
-/

namespace TolerantValidation
namespace Json5

variable {rest : List Char}

def fractionText (fraction : Option (List Char)) : List Char :=
  (fraction.map ('.' :: ·)).getD []

def IsExponentText (exponent : Option (Bool × List Char)) (text : List Char) : Prop :=
  match exponent with
  | none => text = []
  | some parts => ∃ tail, text = 'e' :: tail ∧ Number.readExponent? text = some parts

theorem IsExponentText.readExponent {exponent : Option (Bool × List Char)} {text : List Char}
    (isText : IsExponentText exponent text) :
    Number.readExponent? text = some (exponent.getD (false, [])) := by
  cases exponent with
  | none =>
      cases isText
      rfl
  | some parts =>
      obtain ⟨_, _, read⟩ := isText
      exact read

theorem IsExponentText.ends {exponent : Option (Bool × List Char)} {text : List Char}
    (isText : IsExponentText exponent text) :
    ∀ first after, text = first :: after → first = 'e' := by
  rintro first after rfl
  cases exponent with
  | none => cases isText
  | some parts =>
      obtain ⟨tail, same, _⟩ := isText
      cases same
      rfl

theorem splitSign_of_digit {first : Char} (isDigit : Json.IsDigit first) (after : List Char) :
    Number.splitSign (first :: after) = (false, first :: after) := by
  unfold Number.splitSign
  split
  · rename_i same
    cases same
    exact absurd isDigit (by unfold Json.IsDigit; decide)
  · rename_i same
    cases same
    exact absurd isDigit (by unfold Json.IsDigit; decide)
  · rfl

theorem splitSign_of_areDigits {digits : List Char} (areDigits : Json.AreDigits digits) :
    Number.splitSign digits = (false, digits) := by
  obtain ⟨some, all⟩ := areDigits
  obtain ⟨first, after, rfl⟩ := List.exists_cons_of_ne_nil some
  exact splitSign_of_digit (all first List.mem_cons_self) after

theorem readExponent_of_sign (sign : List Char) {digits : List Char} {negative : Bool}
    (signSplit : Number.splitSign (sign ++ digits) = (negative, digits))
    (areDigits : Json.AreDigits digits) :
    Number.readExponent? ('e' :: (sign ++ digits)) = some (negative, digits) := by
  obtain ⟨some, all⟩ := areDigits
  have isEmpty : digits.isEmpty = false := by simpa using some
  have allDigits : digits.all Text.isAsciiDigit = true :=
    List.all_eq_true.mpr fun digit member => Json.isAsciiDigit_iff.mpr (all digit member)
  simp [Number.readExponent?, signSplit, isEmpty, allDigits]

def splitPoint (characters : List Char) : List Char × List Char :=
  match characters with
  | '.' :: tail => ('.' :: tail.takeWhile Text.isAsciiDigit, tail.dropWhile Text.isAsciiDigit)
  | _ => ([], characters)

def splitMark (characters : List Char) : List Char × List Char :=
  match characters with
  | mark :: tail =>
    if mark = 'e' ∨ mark = 'E' then
      match tail with
      | '+' :: digits =>
        (['e', '+'] ++ digits.takeWhile Text.isAsciiDigit, digits.dropWhile Text.isAsciiDigit)
      | '-' :: digits =>
        (['e', '-'] ++ digits.takeWhile Text.isAsciiDigit, digits.dropWhile Text.isAsciiDigit)
      | digits => ('e' :: digits.takeWhile Text.isAsciiDigit, digits.dropWhile Text.isAsciiDigit)
    else ([], characters)
  | [] => ([], [])

theorem splitDecimal_eq {characters whole afterWhole point afterPoint mark : List Char}
    (wholeSplit : Json.splitWhole characters = (whole, afterWhole)) (some : whole.isEmpty = false)
    (pointSplit : splitPoint afterWhole = (point, afterPoint))
    (markSplit : splitMark afterPoint = (mark, rest)) :
    splitDecimal characters = (whole ++ point ++ mark, rest) := by
  have whole_eq : splitDecimal characters =
      (whole ++ (splitPoint afterWhole).1 ++ (splitMark (splitPoint afterWhole).2).1,
        (splitMark (splitPoint afterWhole).2).2) := by
    unfold splitDecimal
    rw [wholeSplit]
    simp only [some, Bool.false_and, Bool.not_false, and_true]
    rfl
  rw [whole_eq, pointSplit, markSplit]

theorem splitPoint_of_strict {characters : List Char} {found : Option (List Char)}
    (split : Json.splitFraction characters = (found, rest))
    (noPoint : ∀ after, rest ≠ '.' :: after) :
    splitPoint characters = (fractionText found, rest) := by
  unfold Json.splitFraction at split
  split at split
  · rename_i tail
    dsimp only at split
    split at split
    · cases split
      exact absurd rfl (noPoint tail)
    · cases split
      rfl
  · rename_i other
    cases split
    rw [splitPoint]
    · rfl
    · exact other

theorem splitMark_of_strict {characters : List Char} {found : Option (Bool × List Char)}
    (split : Json.splitExponent characters = (found, rest)) (closes : Closes rest) :
    ∃ text, IsExponentText found text ∧ splitMark characters = (text, rest) := by
  unfold Json.splitExponent at split
  split at split
  · rename_i mark tail
    split at split
    · rename_i isMark
      generalize signSplit : Number.splitSign tail = signed at split
      obtain ⟨negative, unsigned⟩ := signed
      dsimp only at split
      split at split
      · cases split
        have other := (closes mark tail rfl).2
        rcases isMark with rfl | rfl <;> exact absurd other (by decide)
      · rename_i some
        cases split
        have areDigits := Json.areDigits_takeWhile (Bool.eq_false_iff.mpr some)
        unfold Number.splitSign at signSplit
        split at signSplit
        · cases signSplit
          refine ⟨_, ⟨_, rfl, readExponent_of_sign ['-'] rfl areDigits⟩, ?_⟩
          simp [splitMark, isMark]
        · cases signSplit
          refine ⟨_, ⟨_, rfl, readExponent_of_sign ['+'] rfl areDigits⟩, ?_⟩
          simp [splitMark, isMark]
        · rename_i noMinus noPlus
          cases signSplit
          refine ⟨_, ⟨_, rfl, readExponent_of_sign [] ?_ areDigits⟩, ?_⟩
          · exact splitSign_of_areDigits areDigits
          · rw [splitMark, if_pos isMark]
            · rfl
            · exact noPlus
            · exact noMinus
    · rename_i noMark
      cases split
      exact ⟨[], rfl, by simp [splitMark, noMark]⟩
  · cases split
    exact ⟨[], rfl, rfl⟩

theorem areDigits_of_isWhole {whole : List Char} (isWhole : Json.IsWhole whole) :
    Json.AreDigits whole := by
  cases isWhole with
  | zero => exact ⟨by simp, by simp [Json.IsDigit]⟩
  | digits least most others =>
      exact ⟨by simp, List.forall_mem_cons.mpr ⟨⟨Char.le_trans (by decide) least, most⟩, others⟩⟩

theorem readDecimal_of_parts {whole : List Char} {fraction : Option (List Char)}
    {exponent : Option (Bool × List Char)} {mark : List Char} (isWhole : Json.IsWhole whole)
    (digits : ∀ found, fraction = some found → ∀ digit ∈ found, Json.IsDigit digit)
    (isText : IsExponentText exponent mark) :
    Number.readDecimal? (whole ++ fractionText fraction ++ mark) =
      some { negative := false, whole, fraction := fraction.getD []
             exponentNegative := (exponent.map Prod.fst).getD false
             exponent := (exponent.map Prod.snd).getD [] } := by
  obtain ⟨some, all⟩ := areDigits_of_isWhole isWhole
  have isEmpty : whole.isEmpty = false := by simpa using some
  have ends : ∀ first after, mark = first :: after → ¬ Json.IsDigit first := by
    intro first after same
    rw [isText.ends first after same]
    unfold Json.IsDigit
    decide
  have unsigned : Number.splitSign (whole ++ fractionText fraction ++ mark) =
      (false, whole ++ (fractionText fraction ++ mark)) := by
    obtain ⟨first, after, rfl, isDigit⟩ := isWhole.exists_digit
    rw [List.append_assoc, List.cons_append, splitSign_of_digit isDigit]
  have exponentRead : Number.readExponent? mark =
      Option.some ((exponent.map Prod.fst).getD false, (exponent.map Prod.snd).getD []) := by
    rw [isText.readExponent]
    cases exponent <;> rfl
  cases fraction with
  | none =>
      obtain ⟨taken, dropped⟩ := Json.takeWhile_digits all ends
      unfold Number.readDecimal?
      rw [unsigned]
      cases mark with
      | nil =>
          rw [List.append_nil] at taken dropped
          simp [fractionText, taken, dropped, some, exponentRead]
      | cons first after =>
          cases isText.ends first after rfl
          simp [fractionText, taken, dropped, some, exponentRead]
  | some found =>
      have foundDigits := digits found rfl
      obtain ⟨taken, dropped⟩ := Json.takeWhile_digits foundDigits ends
      have pointEnds : ∀ first after, '.' :: (found ++ mark) = first :: after →
          ¬ Json.IsDigit first := by
        rintro _ _ ⟨⟩
        unfold Json.IsDigit
        decide
      obtain ⟨wholeTaken, wholeDropped⟩ := Json.takeWhile_digits all pointEnds
      unfold Number.readDecimal?
      rw [unsigned]
      simp [fractionText, taken, dropped, wholeTaken, wholeDropped, some, exponentRead]

theorem readNumber_of_digit {first : Char} (isDigit : Json.IsDigit first) {after : List Char}
    (noHex : ∀ mark later, after = mark :: later → mark ∉ ['x', 'X']) (negative : Bool) :
    readNumber negative (first :: after) = readDecimal negative (first :: after) := by
  have other : first ∉ ['I', 'N'] := isDigit.notMem (by simp [Json.IsDigit])
  simp only [List.mem_cons, List.not_mem_nil, or_false, not_or] at other
  unfold readNumber
  split
  · rename_i same
    cases same
    exact absurd rfl other.1
  · rename_i same
    cases same
    exact absurd rfl other.2
  · rename_i mark later same
    cases same
    have noMark := noHex mark later rfl
    simp only [List.mem_cons, List.not_mem_nil, or_false] at noMark
    simp [noMark]
  · rfl

theorem splitDecimal_of_strict {characters whole afterWhole afterFraction : List Char}
    {fraction : Option (List Char)} {exponent : Option (Bool × List Char)}
    (wholeSplit : Json.splitWhole characters = (whole, afterWhole)) (some : whole.isEmpty = false)
    (fractionSplit : Json.splitFraction afterWhole = (fraction, afterFraction))
    (exponentSplit : Json.splitExponent afterFraction = (exponent, rest)) (closes : Closes rest) :
    ∃ mark, IsExponentText exponent mark ∧
      splitDecimal characters = (whole ++ fractionText fraction ++ mark, rest) := by
  have noPoint : ∀ after, afterFraction ≠ '.' :: after := by
    rintro after rfl
    cases exponentSplit
    exact absurd (closes '.' after rfl).2 (by decide)
  have pointSplit := splitPoint_of_strict fractionSplit noPoint
  obtain ⟨mark, isText, markSplit⟩ := splitMark_of_strict exponentSplit closes
  exact ⟨mark, isText, splitDecimal_eq wholeSplit some pointSplit markSplit⟩

theorem readNumber_eq_readDecimal {characters whole afterWhole afterFraction : List Char}
    {fraction : Option (List Char)} {exponent : Option (Bool × List Char)}
    (isWhole : Json.IsWhole whole) (split : characters = whole ++ afterWhole)
    (fractionSplit : Json.splitFraction afterWhole = (fraction, afterFraction))
    (exponentSplit : Json.splitExponent afterFraction = (exponent, rest)) (closes : Closes rest)
    (negative : Bool) : readNumber negative characters = readDecimal negative characters := by
  obtain ⟨some, all⟩ := areDigits_of_isWhole isWhole
  obtain ⟨first, digits, rfl⟩ := List.exists_cons_of_ne_nil some
  obtain ⟨firstIsDigit, areDigits⟩ := List.forall_mem_cons.mp all
  subst split
  apply readNumber_of_digit firstIsDigit
  intro mark later same isHex
  cases digits with
  | cons second digits =>
      cases same
      exact (areDigits mark List.mem_cons_self).notMem (by simp [Json.IsDigit]) isHex
  | nil =>
      have marks : mark = 'x' ∨ mark = 'X' := by simpa using isHex
      have begins : afterWhole = mark :: later := same
      subst begins
      rcases marks with rfl | rfl
      · cases fractionSplit
        cases exponentSplit
        exact absurd (closes 'x' later rfl).2 (by decide)
      · cases fractionSplit
        cases exponentSplit
        exact absurd (closes 'X' later rfl).2 (by decide)

theorem readDecimal_of_whole {characters whole : List Char} {negative : Bool}
    (areDigits : Json.AreDigits whole) (short : ¬ whole.length > digitLimit)
    (split : splitDecimal characters = (whole, rest)) :
    readDecimal negative characters =
      some (.int (Number.signed negative (Number.ofDecimalDigits whole)), rest) := by
  have allDigits : whole.all Text.isAsciiDigit = true :=
    List.all_eq_true.mpr fun digit member => Json.isAsciiDigit_iff.mpr (areDigits.2 digit member)
  simp [readDecimal, split, allDigits, areDigits.1, short]

theorem readDecimal_of_real {characters text : List Char} {negative : Bool}
    {parts : Number.DecimalParts} (real : ∃ mark ∈ text, ¬ Json.IsDigit mark)
    (split : splitDecimal characters = (text, rest))
    (read : Number.readDecimal? text = some parts) :
    readDecimal negative characters =
      some (.float { parts with negative }.toBinary64, rest) := by
  obtain ⟨mark, member, noDigit⟩ := real
  have notAll : text.all Text.isAsciiDigit = false := by
    rw [List.all_eq_false]
    exact ⟨mark, member, fun isDigit => noDigit (Json.isAsciiDigit_iff.mp isDigit)⟩
  simp [readDecimal, split, notAll, read]

theorem exists_noDigit {whole mark : List Char} {fraction : Option (List Char)}
    {exponent : Option (Bool × List Char)} (isText : IsExponentText exponent mark)
    (real : fraction = none → exponent = none → False) :
    ∃ character ∈ whole ++ fractionText fraction ++ mark, ¬ Json.IsDigit character := by
  cases fraction with
  | some found => exact ⟨'.', by simp [fractionText], by unfold Json.IsDigit; decide⟩
  | none =>
      cases exponent with
      | none => exact (real rfl rfl).elim
      | some parts =>
          obtain ⟨tail, rfl, _⟩ := isText
          exact ⟨'e', by simp, by unfold Json.IsDigit; decide⟩

theorem digits_of_splitFraction {characters : List Char} {found : List Char}
    (split : Json.splitFraction characters = (some found, rest)) :
    ∀ digit ∈ found, Json.IsDigit digit := by
  unfold Json.splitFraction at split
  split at split
  · dsimp only at split
    split at split
    · cases split
    · rename_i notEmpty
      cases split
      exact (Json.areDigits_takeWhile (Bool.eq_false_iff.mpr notEmpty)).2
  · cases split

theorem readNumber_of_strict {negative : Bool} {characters : List Char} {value : Value}
    (returned : Json.readNumber negative characters = .ok (value, rest)) (closes : Closes rest) :
    readNumber negative characters = some (value, rest) := by
  obtain ⟨whole, afterWhole, wholeSplit⟩ :
      ∃ whole after, Json.splitWhole characters = (whole, after) := ⟨_, _, rfl⟩
  obtain ⟨fraction, afterFraction, fractionSplit⟩ :
      ∃ found after, Json.splitFraction afterWhole = (found, after) := ⟨_, _, rfl⟩
  obtain ⟨exponent, afterExponent, exponentSplit⟩ :
      ∃ found after, Json.splitExponent afterFraction = (found, after) := ⟨_, _, rfl⟩
  simp only [Json.readNumber, wholeSplit, fractionSplit, exponentSplit] at returned
  split at returned
  · cases returned
  · rename_i notEmpty
    have isEmpty := Bool.eq_false_iff.mpr notEmpty
    obtain ⟨isWhole, whole_eq⟩ := Json.isWhole_of_splitWhole wholeSplit isEmpty
    have same : afterExponent = rest := by
      split at returned
      · split at returned
        · cases returned
        · cases returned
          rfl
      · cases returned
        rfl
    subst same
    obtain ⟨mark, isText, split⟩ :=
      splitDecimal_of_strict wholeSplit isEmpty fractionSplit exponentSplit closes
    rw [readNumber_eq_readDecimal isWhole whole_eq fractionSplit exponentSplit closes]
    split at returned
    · split at returned
      · cases returned
      · rename_i short
        cases returned
        cases isText
        rw [fractionText, Option.map_none, Option.getD_none, List.append_nil,
          List.append_nil] at split
        exact readDecimal_of_whole (areDigits_of_isWhole isWhole) short split
    · rename_i real
      cases returned
      refine readDecimal_of_real (exists_noDigit isText real) split
        (readDecimal_of_parts isWhole ?_ isText)
      rintro found rfl
      exact digits_of_splitFraction fractionSplit

theorem readScalar_of_digit {first : Char} (isDigit : Json.IsDigit first) (after : List Char) :
    readScalar (first :: after) = readNumber false (first :: after) := by
  have other : first ∉ ['n', 't', 'f', '-', '+'] := isDigit.notMem (by simp [Json.IsDigit])
  simp only [List.mem_cons, List.not_mem_nil, or_false, not_or] at other
  rw [readScalar]
  all_goals simp_all

theorem readScalar_of_strict {characters : List Char} {value : Value}
    (returned : Json.readScalar characters = .ok (value, rest)) (closes : Closes rest) :
    readScalar characters = some (value, rest) := by
  unfold Json.readScalar at returned
  split at returned
  · cases returned
    simp [readScalar]
  · cases returned
    simp [readScalar]
  · cases returned
    simp [readScalar]
  · cases returned
  · cases returned
  · cases returned
  · rw [readScalar]
    exact readNumber_of_strict returned closes
  · obtain ⟨magnitude, ⟨isWhole, _, _, _⟩, same⟩ := Json.exists_isMagnitude returned
    obtain ⟨first, after, rfl, isDigit⟩ := isWhole.exists_digit
    subst same
    exact (readScalar_of_digit isDigit _).trans (readNumber_of_strict returned closes)

end Json5
end TolerantValidation
