import TolerantValidation.Json5.Reader

/-!
The steps of the reader of JSON5 texts, one equation for each way to go on, given what stands behind
the blanks and comments.
-/

namespace TolerantValidation.Json5

variable {fuel depth : Nat} {characters rest more after : List Char} {value item : Value}

theorem readValue_scalar {first : Char} (other : first ∉ ['"', '\'', '[', '{'])
    (read : readScalar (first :: after) = some (value, rest)) :
    readValue (fuel + 1) depth (first :: after) = .ok (value, rest) := by
  simp only [List.mem_cons, List.not_mem_nil, or_false, not_or] at other
  rw [readValue, read]
  all_goals simp_all

theorem readValue_emptyArray (ends : skip characters = ']' :: rest) :
    readValue (fuel + 1) (depth + 1) ('[' :: characters) = .ok (.list [], rest) := by
  rw [readValue]
  simp only [ends]

theorem readValue_array (goesOn : ∀ after, skip characters ≠ ']' :: after) :
    readValue (fuel + 1) (depth + 1) ('[' :: characters) =
      readItems fuel depth [] (skip characters) := by
  rw [readValue]
  split
  · rename_i same
    exact absurd same (goesOn _)
  · rfl

theorem readValue_emptyObject (ends : skip characters = '}' :: rest) :
    readValue (fuel + 1) (depth + 1) ('{' :: characters) = .ok (.mapping [], rest) := by
  rw [readValue]
  simp only [ends]

theorem readValue_object (goesOn : ∀ after, skip characters ≠ '}' :: after) :
    readValue (fuel + 1) (depth + 1) ('{' :: characters) =
      readMembers fuel depth [] (skip characters) := by
  rw [readValue]
  split
  · rename_i same
    exact absurd same (goesOn _)
  · rfl

section Items

variable {done : List Value}

theorem readItems_last (read : readValue fuel depth characters = .ok (item, rest))
    (ends : skip rest = ']' :: after) :
    readItems (fuel + 1) depth done characters = .ok (.list (item :: done).reverse, after) := by
  rw [readItems, read]
  simp only [ends]

theorem readItems_trailing (read : readValue fuel depth characters = .ok (item, rest))
    (comma : skip rest = ',' :: more) (ends : skip more = ']' :: after) :
    readItems (fuel + 1) depth done characters = .ok (.list (item :: done).reverse, after) := by
  rw [readItems, read]
  simp only [comma, ends]

theorem readItems_next (read : readValue fuel depth characters = .ok (item, rest))
    (comma : skip rest = ',' :: more) (goesOn : ∀ after, skip more ≠ ']' :: after) :
    readItems (fuel + 1) depth done characters =
      readItems fuel depth (item :: done) (skip more) := by
  rw [readItems, read]
  simp only [comma]

end Items

section Members

variable {done : List (Value × Value)} {key : String} {colon : List Char}

theorem readMembers_error {fault : Fault} (keyRead : readKey characters = some (key, rest))
    (isColon : skip rest = ':' :: colon)
    (stopped : readValue fuel depth (skip colon) = .error fault) :
    readMembers (fuel + 1) depth done characters = .error fault := by
  rw [readMembers, keyRead]
  simp only [isColon, stopped]

theorem readMembers_last {afterKey : List Char}
    (keyRead : readKey characters = some (key, afterKey)) (isColon : skip afterKey = ':' :: colon)
    (read : readValue fuel depth (skip colon) = .ok (value, rest))
    (ends : skip rest = '}' :: after) :
    readMembers (fuel + 1) depth done characters =
      .ok (.mapping (Value.put (.text key) value done), after) := by
  rw [readMembers, keyRead]
  simp only [isColon, read, ends]

theorem readMembers_trailing {afterKey : List Char}
    (keyRead : readKey characters = some (key, afterKey)) (isColon : skip afterKey = ':' :: colon)
    (read : readValue fuel depth (skip colon) = .ok (value, rest)) (comma : skip rest = ',' :: more)
    (ends : skip more = '}' :: after) :
    readMembers (fuel + 1) depth done characters =
      .ok (.mapping (Value.put (.text key) value done), after) := by
  rw [readMembers, keyRead]
  simp only [isColon, read, comma, ends]

theorem readMembers_next {afterKey : List Char}
    (keyRead : readKey characters = some (key, afterKey)) (isColon : skip afterKey = ':' :: colon)
    (read : readValue fuel depth (skip colon) = .ok (value, rest)) (comma : skip rest = ',' :: more)
    (goesOn : ∀ after, skip more ≠ '}' :: after) :
    readMembers (fuel + 1) depth done characters =
      readMembers fuel depth (Value.put (.text key) value done) (skip more) := by
  rw [readMembers, keyRead]
  simp only [isColon, read, comma]

end Members

end TolerantValidation.Json5
