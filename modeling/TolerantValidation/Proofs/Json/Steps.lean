import TolerantValidation.Proofs.Json.Numbers
import TolerantValidation.Proofs.Json.Strings

/-!
The steps of the reader of JSON texts, one equation for each way to go on.
-/

namespace TolerantValidation.Json

section Blanks

variable {blank next rest : List Char}

theorem isSpace_iff {character : Char} :
    isSpace character = true ↔ character ∈ [' ', '\t', '\n', '\r'] := by
  simp [isSpace, or_assoc]

theorem skipSpaces_of_blank (isBlank : IsBlank blank) : skipSpaces blank = [] := by
  rw [skipSpaces, ← List.append_nil blank, List.dropWhile_append_of_pos
    fun character member => isSpace_iff.mpr (isBlank character member)]
  rfl

theorem skipSpaces_append (isBlank : IsBlank blank) {first : Char} (visible : isSpace first = false)
    (after : List Char) : skipSpaces (blank ++ first :: after) = first :: after := by
  rw [skipSpaces, List.dropWhile_append_of_pos
    fun character member => isSpace_iff.mpr (isBlank character member)]
  exact List.dropWhile_cons_of_neg (by simp [visible])

theorem exists_blank (characters : List Char) :
    ∃ blank, IsBlank blank ∧ characters = blank ++ skipSpaces characters := by
  refine ⟨characters.takeWhile isSpace, ?_, List.takeWhile_append_dropWhile.symm⟩
  exact fun character member =>
    isSpace_iff.mp (List.all_eq_true.mp List.all_takeWhile character member)

theorem stops_cons {first : Char} (noDigit : Text.isAsciiDigit first = false)
    (other : first ∉ ['.', 'e', 'E']) (after : List Char) : Stops (first :: after) := by
  rintro _ _ ⟨⟩
  rw [Bool.eq_false_iff, Ne, isAsciiDigit_iff] at noDigit
  simp only [List.mem_cons, List.not_mem_nil, or_false, not_or] at other
  exact ⟨noDigit, other⟩

theorem stops_comma (after : List Char) : Stops (',' :: after) :=
  stops_cons (by decide) (by decide) after

theorem stops_bracket (after : List Char) : Stops (']' :: after) :=
  stops_cons (by decide) (by decide) after

theorem stops_brace (after : List Char) : Stops ('}' :: after) :=
  stops_cons (by decide) (by decide) after

theorem Stops.afterBlank (stops : Stops rest) (isBlank : IsBlank blank) :
    Stops (blank ++ rest) := by
  cases blank with
  | nil => exact stops
  | cons first after =>
      have isFirst := isBlank first List.mem_cons_self
      simp only [List.mem_cons, List.not_mem_nil, or_false] at isFirst
      rcases isFirst with rfl | rfl | rfl | rfl <;>
        exact stops_cons (by decide) (by decide) (after ++ rest)

end Blanks

section Steps

variable {fuel depth : Nat} {characters rest blank next : List Char}

theorem exists_fuel {first : Char} (enough : 2 * (first :: characters).length ≤ fuel) :
    ∃ less, fuel = less + 1 :=
  Nat.exists_eq_add_one.mpr (by rw [List.length_cons] at enough; omega)

theorem readItems_last {done : List Value} {item : Value} (isBlank : IsBlank blank)
    (read : readValue fuel depth characters = .ok (item, blank ++ ']' :: rest)) :
    readItems (fuel + 1) depth done characters = .ok (.list (item :: done).reverse, rest) := by
  rw [readItems, read]
  simp only [skipSpaces_append isBlank (by decide : isSpace ']' = false)]

theorem readItems_next {done : List Value} {item : Value} (isBlank : IsBlank blank)
    (read : readValue fuel depth characters = .ok (item, blank ++ ',' :: rest)) :
    readItems (fuel + 1) depth done characters =
      readItems fuel depth (item :: done) (skipSpaces rest) := by
  rw [readItems, read]
  simp only [skipSpaces_append isBlank (by decide : isSpace ',' = false)]

section Members

variable {done : List (Value × Value)} {key after : List Char} {value : Value}

theorem readMembers_error {fault : Fault} (isBlank : IsBlank blank)
    (keyRead : readString [] characters = .ok (key, blank ++ ':' :: after))
    (stopped : readValue fuel depth (skipSpaces after) = .error fault) :
    readMembers (fuel + 1) depth done ('"' :: characters) = .error fault := by
  rw [readMembers, keyRead]
  simp only [skipSpaces_append isBlank (by decide : isSpace ':' = false), stopped]

theorem readMembers_last (isBlank : IsBlank blank) (isNext : IsBlank next)
    (keyRead : readString [] characters = .ok (key, blank ++ ':' :: after))
    (read : readValue fuel depth (skipSpaces after) = .ok (value, next ++ '}' :: rest)) :
    readMembers (fuel + 1) depth done ('"' :: characters) =
      .ok (.mapping (Value.put (.text (String.ofList key)) value done), rest) := by
  rw [readMembers, keyRead]
  simp only [skipSpaces_append isBlank (by decide : isSpace ':' = false), read,
    skipSpaces_append isNext (by decide : isSpace '}' = false)]

theorem readMembers_next (isBlank : IsBlank blank) (isNext : IsBlank next)
    (keyRead : readString [] characters = .ok (key, blank ++ ':' :: after))
    (read : readValue fuel depth (skipSpaces after) = .ok (value, next ++ ',' :: rest)) :
    readMembers (fuel + 1) depth done ('"' :: characters) =
      readMembers fuel depth (Value.put (.text (String.ofList key)) value done)
        (skipSpaces rest) := by
  rw [readMembers, keyRead]
  simp only [skipSpaces_append isBlank (by decide : isSpace ':' = false), read,
    skipSpaces_append isNext (by decide : isSpace ',' = false)]

end Members

theorem readValue_emptyArray (isBlank : IsBlank blank) :
    readValue (fuel + 1) (depth + 1) ('[' :: (blank ++ ']' :: rest)) = .ok (.list [], rest) := by
  rw [readValue]
  simp only [skipSpaces_append isBlank (by decide : isSpace ']' = false)]

theorem readValue_array (isBlank : IsBlank blank) {first : Char} (visible : isSpace first = false)
    (other : first ≠ ']') :
    readValue (fuel + 1) (depth + 1) ('[' :: (blank ++ first :: rest)) =
      readItems fuel depth [] (first :: rest) := by
  rw [readValue]
  simp only [skipSpaces_append isBlank visible]
  split
  · rename_i same
    cases same
    exact absurd rfl other
  · rfl

theorem readValue_emptyObject (isBlank : IsBlank blank) :
    readValue (fuel + 1) (depth + 1) ('{' :: (blank ++ '}' :: rest)) = .ok (.mapping [], rest) := by
  rw [readValue]
  simp only [skipSpaces_append isBlank (by decide : isSpace '}' = false)]

theorem readValue_object (isBlank : IsBlank blank) {first : Char} (visible : isSpace first = false)
    (other : first ≠ '}') :
    readValue (fuel + 1) (depth + 1) ('{' :: (blank ++ first :: rest)) =
      readMembers fuel depth [] (first :: rest) := by
  rw [readValue]
  simp only [skipSpaces_append isBlank visible]
  split
  · rename_i same
    cases same
    exact absurd rfl other
  · rfl

theorem readValue_scalar {first : Char} (other : first ∉ ['"', '[', '{']) (after : List Char) :
    readValue (fuel + 1) depth (first :: after) = readScalar (first :: after) := by
  simp only [List.mem_cons, List.not_mem_nil, or_false, not_or] at other
  rw [readValue]
  all_goals simp_all

theorem IsDigit.notMem {first : Char} (isDigit : IsDigit first) {others : List Char}
    (noDigits : ∀ other ∈ others, ¬ IsDigit other) : first ∉ others :=
  fun member => noDigits first member isDigit

theorem IsDigit.isSpace_eq_false {first : Char} (isDigit : IsDigit first) :
    isSpace first = false := by
  have other : first ∉ [' ', '\t', '\n', '\r'] := isDigit.notMem (by simp [IsDigit])
  rwa [← isSpace_iff, Bool.not_eq_true] at other

theorem readScalar_digit {first : Char} (isDigit : IsDigit first) (after : List Char) :
    readScalar (first :: after) = readNumber false (first :: after) := by
  have other : first ∉ ['n', 't', 'f', 'N', 'I', '-'] :=
    isDigit.notMem (by simp [IsDigit])
  simp only [List.mem_cons, List.not_mem_nil, or_false, not_or] at other
  rw [readScalar]
  all_goals simp_all

theorem readScalar_negative {first : Char} (isDigit : IsDigit first) (after : List Char) :
    readScalar ('-' :: first :: after) = readNumber true (first :: after) := by
  have other : first ∉ ['I'] := isDigit.notMem (by simp [IsDigit])
  simp only [List.mem_cons, List.not_mem_nil, or_false] at other
  rw [readScalar]
  all_goals simp_all

end Steps

end TolerantValidation.Json
