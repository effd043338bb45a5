import TolerantValidation.Json5.Reader
import TolerantValidation.Proofs.Json.Steps

/-!
What may stand between two tokens of a text: blanks and comments. The reader skips all of it and
stops at the token.
-/

namespace TolerantValidation

namespace Json5

def lineEnds : List Char := ['\n', '\r', '\u2028', '\u2029']

/-- Blanks and comments, in any number and order. -/
inductive IsGap : List Char → Prop
  | nil : IsGap []
  | blank {character rest} : character ∈ [' ', '\t', '\n', '\r'] → IsGap rest →
      IsGap (character :: rest)
  | line {comment lineEnd rest} : (∀ character ∈ comment, character ∉ lineEnds) →
      lineEnd ∈ lineEnds → IsGap rest → IsGap ('/' :: '/' :: (comment ++ lineEnd :: rest))
  | block {comment rest} : ¬ ['*', '/'] <:+: comment → IsGap rest →
      IsGap ('/' :: '*' :: (comment ++ '*' :: '/' :: rest))

/-- Nothing at the beginning is blank or opens a comment. -/
def Stands (rest : List Char) : Prop :=
  ∀ first after, rest = first :: after → '!' ≤ first ∧ first ≤ '~' ∧ first ≠ '/'

theorem stands_cons {first : Char} (visible : '!' ≤ first ∧ first ≤ '~' ∧ first ≠ '/')
    (after : List Char) : Stands (first :: after) := by
  rintro _ _ ⟨⟩
  exact visible

theorem isLineEnd_iff {character : Char} : isLineEnd character = true ↔ character ∈ lineEnds := by
  simp [isLineEnd, lineEnds, or_assoc]

theorem isSpace_eq_false_of_visible {character : Char} (least : '!' ≤ character)
    (most : character ≤ '~') : isSpace character = false := by
  have noBlank := Text.isBlank_eq_false_of_visible least most
  have other : character ∉
      ['\n', '\r', '\u2028', '\u2029', ' ', '\t', '\x0B', '\x0C', '\uFEFF'] := by
    intro member
    simp only [List.mem_cons, List.not_mem_nil, or_false] at member
    rcases member with rfl | rfl | rfl | rfl | rfl | rfl | rfl | rfl | rfl <;>
      revert least most <;> decide
  simp only [List.mem_cons, List.not_mem_nil, or_false, not_or] at other
  simp [isSpace, isLineEnd, Text.isSpace, noBlank, other]

theorem isSpace_of_mem {character : Char} (isBlank : character ∈ [' ', '\t', '\n', '\r']) :
    isSpace character = true := by
  simp only [List.mem_cons, List.not_mem_nil, or_false] at isBlank
  rcases isBlank with rfl | rfl | rfl | rfl <;> decide

theorem afterBlockComment_append {comment : List Char} (closed : ¬ ['*', '/'] <:+: comment)
    (rest : List Char) : afterBlockComment (comment ++ '*' :: '/' :: rest) = some rest := by
  induction comment with
  | nil => rfl
  | cons first comment ih =>
      have tailClosed : ¬ ['*', '/'] <:+: comment := by
        intro inside
        exact closed (inside.trans (List.suffix_cons first comment).isInfix)
      have goesOn : ∀ after, first = '*' → comment ++ '*' :: '/' :: rest ≠ '/' :: after := by
        rintro after rfl same
        cases comment with
        | nil => cases same
        | cons second comment =>
            cases same
            exact closed (List.prefix_append ['*', '/'] comment).isInfix
      rw [List.cons_append, afterBlockComment]
      · exact ih tailClosed
      · exact goesOn

theorem skipSpaces_cons {first : Char} (noComment : first ≠ '/') (fuel : Nat) (after : List Char) :
    skipSpaces (fuel + 1) (first :: after) =
      if isSpace first then skipSpaces fuel after else first :: after := by
  rw [skipSpaces.eq_def]
  dsimp only
  split
  · rename_i same
    cases same
    exact absurd rfl noComment
  · rename_i same
    cases same
    exact absurd rfl noComment
  · rename_i same
    cases same
    rfl
  · rename_i same
    cases same

theorem skipSpaces_of_stands {rest : List Char} (stands : Stands rest) (fuel : Nat) :
    skipSpaces fuel rest = rest := by
  cases fuel with
  | zero => rfl
  | succ fuel =>
      cases rest with
      | nil => rfl
      | cons first after =>
          obtain ⟨least, most, noComment⟩ := stands first after rfl
          have noSpace := isSpace_eq_false_of_visible least most
          rw [skipSpaces_cons noComment, noSpace]
          rfl

theorem skipSpaces_append {gap rest : List Char} (isGap : IsGap gap) (stands : Stands rest)
    {fuel : Nat} (enough : gap.length ≤ fuel) : skipSpaces fuel (gap ++ rest) = rest := by
  induction isGap generalizing fuel with
  | nil => exact skipSpaces_of_stands stands fuel
  | @blank character gap isBlank _ ih =>
      rw [List.length_cons] at enough
      obtain ⟨fuel, rfl⟩ : ∃ less, fuel = less + 1 := Nat.exists_eq_add_one.mpr (by omega)
      have noComment : character ≠ '/' := by
        rintro rfl
        exact absurd isBlank (by decide)
      rw [List.cons_append, skipSpaces_cons noComment, isSpace_of_mem isBlank, if_pos rfl]
      exact ih (by omega)
  | @line comment lineEnd gap inLine isEnd _ ih =>
      simp only [List.length_cons, List.length_append] at enough
      obtain ⟨fuel, rfl⟩ : ∃ less, fuel = less + 1 + 1 := ⟨fuel - 2, by omega⟩
      have all : ∀ character ∈ comment, (!isLineEnd character) = true := by
        intro character member
        have other := inLine character member
        rw [← isLineEnd_iff] at other
        simpa using other
      have ends := isLineEnd_iff.mpr isEnd
      have noComment : lineEnd ≠ '/' := by
        rintro rfl
        exact absurd isEnd (by decide)
      have dropped : (comment ++ lineEnd :: (gap ++ rest)).dropWhile (fun character =>
          !isLineEnd character) = lineEnd :: (gap ++ rest) := by
        rw [List.dropWhile_append_of_pos all, List.dropWhile_cons_of_neg (by simp [ends])]
      have opened (characters : List Char) : skipSpaces (fuel + 1 + 1) ('/' :: '/' :: characters) =
          skipSpaces (fuel + 1) (characters.dropWhile fun character => !isLineEnd character) := rfl
      have isSpace : isSpace lineEnd = true := by simp [isSpace, ends]
      simp only [List.cons_append, List.append_assoc]
      rw [opened, dropped, skipSpaces_cons noComment, isSpace, if_pos rfl]
      exact ih (by omega)
  | @block comment gap closed _ ih =>
      simp only [List.length_cons, List.length_append] at enough
      obtain ⟨fuel, rfl⟩ : ∃ less, fuel = less + 1 := Nat.exists_eq_add_one.mpr (by omega)
      have opened : skipSpaces (fuel + 1) ('/' :: '*' :: (comment ++ '*' :: '/' :: (gap ++ rest))) =
          skipSpaces fuel (gap ++ rest) := by
        rw [skipSpaces.eq_def]
        simp only [afterBlockComment_append closed]
      simp only [List.cons_append, List.append_assoc]
      rw [opened]
      exact ih (by omega)

theorem skip_append {gap rest : List Char} (isGap : IsGap gap) (stands : Stands rest) :
    skip (gap ++ rest) = rest :=
  skipSpaces_append isGap stands (by rw [List.length_append]; omega)

theorem isGap_of_isBlank {blank : List Char} (isBlank : Json.IsBlank blank) : IsGap blank := by
  induction blank with
  | nil => exact .nil
  | cons character blank ih =>
      obtain ⟨first, others⟩ := List.forall_mem_cons.mp isBlank
      exact .blank first (ih others)

theorem skip_eq {characters : List Char} (stands : Stands (Json.skipSpaces characters)) :
    skip characters = Json.skipSpaces characters := by
  obtain ⟨blank, isBlank, whole⟩ := Json.exists_blank characters
  have skipped := skip_append (isGap_of_isBlank isBlank) stands
  rwa [← whole] at skipped

/-- The text begins as a value or a member does. -/
def Starts (characters : List Char) : Prop :=
  Stands characters ∧ ∀ after, characters ≠ ']' :: after ∧ characters ≠ '}' :: after

theorem starts_cons {first : Char} (visible : '!' ≤ first ∧ first ≤ '~' ∧ first ∉ ['/', ']', '}'])
    (after : List Char) : Starts (first :: after) := by
  obtain ⟨least, most, other⟩ := visible
  simp only [List.mem_cons, List.not_mem_nil, or_false, not_or] at other
  refine ⟨stands_cons ⟨least, most, other.1⟩ after, ?_⟩
  intro after
  simp [other]

theorem starts_of_isDigit {first : Char} (isDigit : Json.IsDigit first) (after : List Char) :
    Starts (first :: after) :=
  starts_cons ⟨Char.le_trans (by decide) isDigit.1, Char.le_trans isDigit.2 (by decide),
    isDigit.notMem (by simp [Json.IsDigit])⟩ after

/-- No number goes on with what follows, nor does a zero before it become a hexadecimal mark. -/
def Closes (rest : List Char) : Prop :=
  ∀ first after, rest = first :: after →
    ¬ Json.IsDigit first ∧ first ∉ ['.', 'e', 'E', 'x', 'X']

theorem Closes.stops (closes : Closes rest) : Json.Stops rest := by
  intro first after same
  obtain ⟨noDigit, other⟩ := closes first after same
  simp only [List.mem_cons, List.not_mem_nil, or_false, not_or] at other
  exact ⟨noDigit, other.1, other.2.1, other.2.2.1⟩

theorem closes_cons {first : Char}
    (other : first ∈ [' ', '\t', '\n', '\r', '/', ',', ':', ']', '}']) (after : List Char) :
    Closes (first :: after) := by
  rintro _ _ ⟨⟩
  simp only [List.mem_cons, List.not_mem_nil, or_false] at other
  unfold Json.IsDigit
  rcases other with rfl | rfl | rfl | rfl | rfl | rfl | rfl | rfl | rfl <;> decide

theorem Closes.afterGap {gap rest : List Char} (closes : Closes rest) (isGap : IsGap gap) :
    Closes (gap ++ rest) := by
  cases isGap with
  | nil => exact closes
  | @blank character gap isBlank _ =>
      have other : character ∈ [' ', '\t', '\n', '\r'] ++ ['/', ',', ':', ']', '}'] :=
        List.mem_append_left _ isBlank
      exact closes_cons other (gap ++ rest)
  | line => exact closes_cons (by decide) _
  | block => exact closes_cons (by decide) _

end Json5
end TolerantValidation
