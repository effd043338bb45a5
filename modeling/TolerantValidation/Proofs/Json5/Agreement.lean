import TolerantValidation.Document.Format
import TolerantValidation.Proofs.Json.Acceptance
import TolerantValidation.Proofs.Json5.Numbers
import TolerantValidation.Proofs.Json5.Steps
import TolerantValidation.Proofs.Json5.Strings

/-!
Strict JSON is read as JSON5 with the same value, and what nests too deep for the one nests too deep
for the other. So the name of a file decides whether reading it is reported, never what is read.
-/

namespace TolerantValidation

namespace Json5

section Refusals

variable {fuel depth : Nat} {characters rest : List Char}

/-- The strict reader refuses, for another reason than depth. -/
def Refuses {Read : Type} (strict : Except Json.Fault Read) : Prop :=
  ∃ fault, strict = .error fault ∧ fault ≠ .tooDeep

theorem readString_error {done : List Char} {fault : Json.Fault}
    (stopped : Json.readString done characters = .error fault) : fault ≠ .tooDeep := by
  fun_induction Json.readString done characters with
  | case2 => cases stopped
  | case5 | case6 | case7 | case9 | case10 | case13 =>
      rename_i ih
      exact ih stopped
  | _ =>
      cases stopped
      decide

theorem readNumber_error {negative : Bool} {fault : Json.Fault}
    (stopped : Json.readNumber negative characters = .error fault) : fault ≠ .tooDeep := by
  unfold Json.readNumber at stopped
  dsimp only at stopped
  split at stopped
  · cases stopped
    nofun
  · split at stopped
    · split at stopped
      · cases stopped
        nofun
      · cases stopped
    · cases stopped

theorem readScalar_error {fault : Json.Fault}
    (stopped : Json.readScalar characters = .error fault) : fault ≠ .tooDeep := by
  unfold Json.readScalar at stopped
  split at stopped
  case h_7 | h_8 => exact readNumber_error stopped
  all_goals
    cases stopped
    try nofun

theorem exists_cons_of_readScalar {result : Value × List Char}
    (returned : Json.readScalar characters = .ok result) :
    ∃ first after, characters = first :: after := by
  cases characters with
  | nil => cases returned
  | cons first after => exact ⟨first, after, rfl⟩

theorem readScalar_starts {result : Value × List Char}
    (returned : Json.readScalar characters = .ok result) : Starts characters := by
  unfold Json.readScalar at returned
  split at returned
  case h_8 =>
    obtain ⟨magnitude, isMagnitude, rfl⟩ := Json.exists_isMagnitude returned
    obtain ⟨first, after, rfl, isDigit⟩ := isMagnitude.exists_digit
    exact starts_of_isDigit isDigit _
  all_goals exact starts_cons (by decide) _

theorem readValue_starts (fuel depth : Nat) (characters : List Char) :
    Starts characters ∨ Refuses (Json.readValue (fuel + 1) depth characters) := by
  unfold Json.readValue
  split
  · exact .inl (starts_cons (by decide) _)
  · exact .inl (starts_cons (by decide) _)
  · exact .inl (starts_cons (by decide) _)
  · cases read : Json.readScalar characters with
    | ok result => exact .inl (readScalar_starts read)
    | error fault => exact .inr ⟨fault, rfl, readScalar_error read⟩

theorem readItems_starts (fuel depth : Nat) (done : List Value) (characters : List Char) :
    Starts characters ∨ Refuses (Json.readItems (fuel + 2) depth done characters) := by
  rcases readValue_starts fuel depth characters with starts | ⟨fault, stopped, shallow⟩
  · exact .inl starts
  · exact .inr ⟨fault, Json.readItems_error stopped, shallow⟩

theorem readMembers_starts (fuel depth : Nat) (done : List (Value × Value))
    (characters : List Char) :
    Starts characters ∨ Refuses (Json.readMembers (fuel + 1) depth done characters) := by
  unfold Json.readMembers
  split
  · exact .inl (starts_cons (by decide) _)
  · exact .inr ⟨_, rfl, nofun⟩

end Refusals

/-- What the strict reader settles is settled for the reader: a value that ends where no number goes
on, or that the text nests too deep. -/
def Settles (strict : Except Json.Fault (Value × List Char))
    (lenient : Except Fault (Value × List Char)) : Prop :=
  match strict with
  | .ok (value, rest) => Closes rest → lenient = .ok (value, rest)
  | .error .tooDeep => lenient = .error .tooDeep
  | .error _ => True

theorem settles_of_refuses {strict : Except Json.Fault (Value × List Char)}
    {lenient : Except Fault (Value × List Char)} (refuses : Refuses strict) :
    Settles strict lenient := by
  obtain ⟨fault, rfl, shallow⟩ := refuses
  cases fault with
  | tooDeep => exact absurd rfl shallow
  | malformed | constant | tooManyDigits => trivial

/-- The readers agree if there is so much fuel that it never runs out. -/
structure Agree (fuel : Nat) : Prop where
  value {depth characters} : 2 * characters.length < fuel →
    Settles (Json.readValue fuel depth characters) (readValue fuel depth characters)
  items {depth done characters} : 2 * characters.length + 1 < fuel →
    Settles (Json.readItems fuel depth done characters) (readItems fuel depth done characters)
  members {depth done characters} : 2 * characters.length + 1 < fuel →
    Settles (Json.readMembers fuel depth done characters) (readMembers fuel depth done characters)

variable {fuel depth : Nat} {characters rest : List Char}

theorem closes_of_skipSpaces {mark : Char} {after : List Char}
    (isMark : mark ∈ [',', ':', ']', '}']) (found : Json.skipSpaces rest = mark :: after) :
    Closes rest ∧ skip rest = mark :: after := by
  have stands : Stands (Json.skipSpaces rest) := by
    rw [found]
    simp only [List.mem_cons, List.not_mem_nil, or_false] at isMark
    rcases isMark with rfl | rfl | rfl | rfl <;> exact stands_cons (by decide) after
  obtain ⟨blank, isBlank, whole⟩ := Json.exists_blank rest
  rw [found] at whole
  have closes : Closes (mark :: after) := closes_cons
    (List.mem_append_right [' ', '\t', '\n', '\r', '/'] isMark) after
  rw [whole]
  exact ⟨closes.afterGap (isGap_of_isBlank isBlank), by rw [← whole, skip_eq stands, found]⟩

theorem length_skipSpaces_le (characters : List Char) :
    (Json.skipSpaces characters).length ≤ characters.length :=
  (List.dropWhile_sublist _).length_le

theorem shorter_of_skipSpaces {mark : Char} {after : List Char}
    (found : Json.skipSpaces rest = mark :: after) : after.length < rest.length := by
  have bound := length_skipSpaces_le rest
  rw [found, List.length_cons] at bound
  omega

theorem readValue_shorter {value : Value}
    (read : Json.readValue fuel depth characters = .ok (value, rest)) :
    rest.length < characters.length := by
  obtain ⟨text, derives, rfl⟩ := (Json.sound fuel).value read
  obtain ⟨first, after, rfl, _⟩ := derives.exists_first
  simp only [List.cons_append, List.length_cons, List.length_append]
  omega

theorem readString_shorter {done text : List Char}
    (read : Json.readString done characters = .ok (text, rest)) :
    rest.length < characters.length := by
  obtain ⟨body, _, rfl⟩ := Json.exists_isStringBody read
  simp only [List.length_append, List.length_cons]
  omega

theorem Agree.nextItems (agree : Agree fuel) {done : List Value}
    (enough : 2 * characters.length + 1 < fuel + 1) :
    Settles (Json.readItems (fuel + 1) depth done characters)
      (readItems (fuel + 1) depth done characters) := by
  have first : Settles (Json.readValue fuel depth characters) (readValue fuel depth characters) :=
    agree.value (by omega)
  cases read : Json.readValue fuel depth characters with
  | error fault =>
      rw [read] at first
      rw [Json.readItems_error read]
      cases fault with
      | tooDeep => exact readItems_error first
      | malformed | constant | tooManyDigits => trivial
  | ok result =>
      obtain ⟨item, rest⟩ := result
      rw [read] at first
      have shorter := readValue_shorter read
      rw [Json.readItems, read]
      dsimp only
      split
      · rename_i more found
        obtain ⟨closes, comma⟩ := closes_of_skipSpaces (by decide) found
        have moreShorter := shorter_of_skipSpaces found
        have nextShorter := length_skipSpaces_le more
        obtain ⟨fuel, rfl⟩ : ∃ less, fuel = less + 2 := ⟨fuel - 2, by omega⟩
        rcases readItems_starts _ _ _ (Json.skipSpaces more) with starts | refuses
        · have skipped := skip_eq starts.1
          have goesOn := fun after => skipped ▸ (starts.2 after).1
          rw [readItems_next (first closes) comma goesOn, skipped]
          exact agree.items (by omega)
        · exact settles_of_refuses refuses
      · rename_i after found
        obtain ⟨closes, ends⟩ := closes_of_skipSpaces (by decide) found
        intro _
        exact readItems_last (first closes) ends
      · trivial

theorem Agree.held (agree : Agree fuel) {colon : List Char} (enough : 2 * colon.length < fuel) :
    Settles (Json.readValue fuel depth (Json.skipSpaces colon))
      (readValue fuel depth (skip colon)) := by
  have shorter := length_skipSpaces_le colon
  obtain ⟨fuel, rfl⟩ : ∃ less, fuel = less + 1 := ⟨fuel - 1, by omega⟩
  rcases readValue_starts _ _ (Json.skipSpaces colon) with starts | refuses
  · rw [skip_eq starts.1]
    exact agree.value (by omega)
  · exact settles_of_refuses refuses

theorem Agree.nextMembers (agree : Agree fuel) {done : List (Value × Value)}
    (enough : 2 * characters.length + 1 < fuel + 1) :
    Settles (Json.readMembers (fuel + 1) depth done characters)
      (readMembers (fuel + 1) depth done characters) := by
  unfold Json.readMembers
  split
  · rename_i keyText
    simp only [List.length_cons] at enough
    split
    · rename_i fault stopped
      exact settles_of_refuses ⟨fault, rfl, readString_error stopped⟩
    · rename_i key afterKey keyRead
      have keyShorter := readString_shorter keyRead
      have isKey : readKey ('"' :: keyText) = some (String.ofList key, afterKey) :=
        readString_of_strict keyRead
      split
      · rename_i colon colonFound
        obtain ⟨_, isColon⟩ := closes_of_skipSpaces (by decide) colonFound
        have colonShorter := shorter_of_skipSpaces colonFound
        have valueShorter := length_skipSpaces_le colon
        have held : Settles (Json.readValue fuel depth (Json.skipSpaces colon))
            (readValue fuel depth (skip colon)) := agree.held (by omega)
        cases read : Json.readValue fuel depth (Json.skipSpaces colon) with
        | error fault =>
            rw [read] at held
            cases fault with
            | tooDeep => exact readMembers_error isKey isColon held
            | malformed | constant | tooManyDigits => trivial
        | ok result =>
            obtain ⟨value, rest⟩ := result
            rw [read] at held
            have shorter := readValue_shorter read
            dsimp only
            split
            · rename_i more found
              obtain ⟨closes, comma⟩ := closes_of_skipSpaces (by decide) found
              have moreShorter := shorter_of_skipSpaces found
              have nextShorter := length_skipSpaces_le more
              obtain ⟨fuel, rfl⟩ : ∃ less, fuel = less + 1 := ⟨fuel - 1, by omega⟩
              rcases readMembers_starts _ _ _ (Json.skipSpaces more) with starts | refuses
              · have skipped := skip_eq starts.1
                rw [readMembers_next isKey isColon (held closes) comma fun after =>
                  skipped ▸ (starts.2 after).2, skipped]
                exact agree.members (by omega)
              · exact settles_of_refuses refuses
            · rename_i after found
              obtain ⟨closes, ends⟩ := closes_of_skipSpaces (by decide) found
              intro _
              exact readMembers_last isKey isColon (held closes) ends
            · trivial
      · trivial
  · trivial

theorem Agree.nextValue (agree : Agree fuel) (enough : 2 * characters.length < fuel + 1) :
    Settles (Json.readValue (fuel + 1) depth characters)
      (readValue (fuel + 1) depth characters) := by
  unfold Json.readValue
  split
  · rename_i text
    cases read : Json.readString [] text with
    | error fault =>
        exact settles_of_refuses ⟨fault, rfl, readString_error read⟩
    | ok result =>
        intro _
        exact readValue_string (readString_of_strict read)
  · rename_i inner
    simp only [List.length_cons] at enough
    split
    · rfl
    · rename_i depth
      split
      · rename_i after found
        obtain ⟨_, ends⟩ := closes_of_skipSpaces (by decide) found
        intro _
        exact readValue_emptyArray ends
      · have shorter := length_skipSpaces_le inner
        obtain ⟨fuel, rfl⟩ : ∃ less, fuel = less + 2 := ⟨fuel - 2, by omega⟩
        rcases readItems_starts _ _ _ (Json.skipSpaces inner) with starts | refuses
        · have skipped := skip_eq starts.1
          rw [readValue_array fun after => skipped ▸ (starts.2 after).1, skipped]
          exact agree.items (by omega)
        · exact settles_of_refuses refuses
  · rename_i inner
    simp only [List.length_cons] at enough
    split
    · rfl
    · rename_i depth
      split
      · rename_i after found
        obtain ⟨_, ends⟩ := closes_of_skipSpaces (by decide) found
        intro _
        exact readValue_emptyObject ends
      · have shorter := length_skipSpaces_le inner
        obtain ⟨fuel, rfl⟩ : ∃ less, fuel = less + 1 := ⟨fuel - 1, by omega⟩
        rcases readMembers_starts _ _ _ (Json.skipSpaces inner) with starts | refuses
        · have skipped := skip_eq starts.1
          rw [readValue_object fun after => skipped ▸ (starts.2 after).2, skipped]
          exact agree.members (by omega)
        · exact settles_of_refuses refuses
  · rename_i noString noArray noObject
    cases read : Json.readScalar characters with
    | error fault => exact settles_of_refuses ⟨fault, rfl, readScalar_error read⟩
    | ok result =>
        obtain ⟨value, rest⟩ := result
        intro closes
        obtain ⟨first, after, rfl⟩ := exists_cons_of_readScalar read
        have other : first ∉ ['"', '\'', '[', '{'] := by
          simp only [List.mem_cons, List.not_mem_nil, or_false, not_or]
          refine ⟨?_, ?_, ?_, ?_⟩
          · rintro rfl
            exact noString _ rfl
          · rintro rfl
            cases read
          · rintro rfl
            exact noArray _ rfl
          · rintro rfl
            exact noObject _ rfl
        exact readValue_scalar other (readScalar_of_strict read closes)

theorem agree (fuel : Nat) : Agree fuel := by
  induction fuel with
  | zero => exact ⟨by omega, by omega, by omega⟩
  | succ fuel ih => exact ⟨ih.nextValue, ih.nextItems, ih.nextMembers⟩

theorem closes_of_isEmpty (ends : (Json.skipSpaces rest).isEmpty = true) :
    Closes rest ∧ (skip rest).isEmpty = true := by
  have nothing : Json.skipSpaces rest = [] := List.isEmpty_iff.mp ends
  have skipped : skip rest = Json.skipSpaces rest := skip_eq (by rw [nothing]; nofun)
  obtain ⟨blank, isBlank, whole⟩ := Json.exists_blank rest
  have closes : Closes [] := nofun
  refine ⟨?_, by rw [skipped, ends]⟩
  rw [whole, nothing]
  exact closes.afterGap (isGap_of_isBlank isBlank)

theorem readValue_settles (depth : Nat) (characters : List Char) :
    Settles
      (Json.readValue (Json.fuelFor (Json.skipSpaces characters)) depth
        (Json.skipSpaces characters))
      (readValue (Json.fuelFor (skip characters)) depth (skip characters)) := by
  rcases readValue_starts (2 * (Json.skipSpaces characters).length + 1) depth
      (Json.skipSpaces characters) with starts | refuses
  · rw [skip_eq starts.1]
    exact (agree _).value (by unfold Json.fuelFor; omega)
  · exact settles_of_refuses refuses

/-- A text of strict JSON has the same value as JSON5. -/
theorem read_of_strict {text : String} {value : Value} (returned : Json.read text = .ok value) :
    read text = .ok value := by
  have settles := readValue_settles Json.depthLimit text.toList
  unfold Json.read Json.readWithin at returned
  unfold read
  dsimp only at returned ⊢
  split at returned
  · cases returned
  · rename_i found rest strict
    split at returned
    · rename_i ends
      cases returned
      obtain ⟨closes, empty⟩ := closes_of_isEmpty ends
      rw [strict] at settles
      have same : readValue _ _ _ = _ := settles closes
      simp only [same, empty, if_true]
    · cases returned

theorem read_tooDeep {text : String} (stopped : Json.read text = .error .tooDeep) :
    read text = .error .tooDeep := by
  have settles := readValue_settles Json.depthLimit text.toList
  unfold Json.read Json.readWithin at stopped
  unfold read
  dsimp only at stopped ⊢
  split at stopped
  · rename_i fault strict
    cases stopped
    rw [strict] at settles
    have same : readValue _ _ _ = _ := settles
    simp only [same]
  · split at stopped <;> cases stopped

end Json5

namespace Document

variable {text : String}

theorem readJson5_of_readJson {value : Value} (returned : readJson text = .ok value) :
    readJson5 text = .ok value := by
  unfold readJson5
  rw [Json5.read_of_strict (readJson_eq_ok_iff.mp returned)]
  rfl

theorem readJson5_tooDeep {fault : DocumentFault} (stopped : readJson text = .error fault)
    (shallow : fault.isAboutText = false) : readJson5 text = .error fault := by
  unfold readJson at stopped
  unfold readJson5
  cases strict : Json.read text with
  | ok found =>
      rw [strict] at stopped
      cases stopped
  | error cause =>
      rw [strict] at stopped
      cases cause with
      | tooDeep =>
          cases stopped
          rw [Json5.read_tooDeep strict]
          rfl
      | malformed | constant | tooManyDigits =>
          cases stopped
          cases shallow

/-- Whatever its name, a file holds what its text is as JSON5. -/
theorem outcome_readJsonFile (filename text : String) :
    (readJsonFile filename text).outcome = readJson5 text := by
  unfold readJsonFile
  split
  · rfl
  · split
    · rename_i value strict
      exact (readJson5_of_readJson strict).symm
    · rename_i fault strict
      split
      · split
        · rename_i lenient
          exact lenient.symm
        · rename_i lenient
          exact lenient.symm
      · rename_i deep
        exact (readJson5_tooDeep strict (by simpa using deep)).symm

theorem events_readJsonFile (filename text : String) :
    (readJsonFile filename text).events =
      if hasExtension ".jsonc" filename = false ∧ hasExtension ".json5" filename = false ∧
        (readJson text).isOk = false ∧ (readJson5 text).isOk = true
      then [.logged (renamingEntry filename)] else [] := by
  unfold readJsonFile
  by_cases lenient : (hasExtension ".jsonc" filename || hasExtension ".json5" filename) = true
  · rw [if_pos lenient, if_neg]
    rintro ⟨noJsonc, noJson5, _⟩
    simp [noJsonc, noJson5] at lenient
  · have strictName : hasExtension ".jsonc" filename = false ∧
        hasExtension ".json5" filename = false := by simpa using lenient
    rw [if_neg lenient]
    cases strict : readJson text with
    | ok value => simp [Except.isOk, Except.toBool]
    | error fault =>
        cases aboutText : fault.isAboutText with
        | false =>
            rw [readJson5_tooDeep strict aboutText]
            simp [Except.isOk, Except.toBool, aboutText]
        | true =>
            cases readJson5 text <;> simp [Except.isOk, Except.toBool, aboutText, strictName]

/-- Renaming a file changes neither what is read nor whether it is refused, strict JSON is read as
JSON5 with the same value, and the reader warns of the texts that are JSON5 but no strict JSON,
unless the name says so. -/
theorem readJsonFile_rename (text : String) :
    (∀ first second, (readJsonFile first text).outcome = (readJsonFile second text).outcome) ∧
      (∀ filename value, readJson text = .ok value →
        (readJsonFile filename text).outcome = .ok value ∧ readJson5 text = .ok value) ∧
      ∀ filename, (readJsonFile filename text).events =
        if hasExtension ".jsonc" filename = false ∧ hasExtension ".json5" filename = false ∧
          (readJson text).isOk = false ∧ (readJson5 text).isOk = true
        then [.logged (renamingEntry filename)] else [] := by
  refine ⟨?_, ?_, fun filename => events_readJsonFile filename text⟩
  · intro first second
    rw [outcome_readJsonFile, outcome_readJsonFile]
  · intro filename value returned
    have lenient := readJson5_of_readJson returned
    exact ⟨(outcome_readJsonFile filename text).trans lenient, lenient⟩

def repeatedText : String := "\x7b\"a\": [-0, 1.0], \"a\": [-0.0, 1]\x7d"

theorem readJsonFile_rename_of_repeated_name :
    ∃ value, readJson repeatedText = .ok value ∧
      (Json.write value).toOption = some "\x7b\"a\": [-0.0, 1]\x7d" ∧
      (readJsonFile "settings.JSONC" repeatedText).outcome = .ok value ∧
      (readJsonFile "settings.json" repeatedText).events = [] ∧
      (readJsonFile "settings.json" "[1, ]").events =
        [.logged (renamingEntry "settings.json")] := by
  have shown : ((readJson repeatedText).toOption.bind fun value => (Json.write value).toOption) =
      some "\x7b\"a\": [-0.0, 1]\x7d" := by decide +kernel
  cases returned : readJson repeatedText with
  | error fault =>
      rw [returned] at shown
      cases shown
  | ok value =>
      rw [returned] at shown
      obtain ⟨_, same, _⟩ := readJsonFile_rename repeatedText
      refine ⟨value, rfl, shown, (same _ value returned).1, ?_, ?_⟩
      · rw [(readJsonFile_rename repeatedText).2.2, if_neg]
        rintro ⟨_, _, refused, _⟩
        rw [returned] at refused
        cases refused
      · rw [(readJsonFile_rename "[1, ]").2.2, if_pos]
        decide +kernel

end Document
end TolerantValidation
