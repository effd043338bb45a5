import TolerantValidation.Document.Format
import TolerantValidation.Proofs.Json5.Renderings
import TolerantValidation.Proofs.Json5.Steps
import TolerantValidation.Proofs.Json5.Strings

/-!
However a document is written as JSON with comments, the reader takes the text back to it: one lemma
for each way to write a symbol, and an induction on how the text is written.
-/

namespace TolerantValidation

namespace Json5

variable {depth fuel limit : Nat} {rest text : List Char}

theorem Spells.readString {body characters : List Char} (spells : Spells body characters)
    (rest : List Char) :
    readString '"' (body ++ '"' :: rest) = some (String.ofList characters, rest) := by
  have strict : ∀ done, Json.readString done (body ++ '"' :: rest) =
      .ok (done.reverse ++ characters, rest) := by
    induction spells with
    | nil =>
        intro done
        rw [List.nil_append, Json.readString_quote, List.append_nil]
    | plain visible other _ ih =>
        intro done
        simp only [List.mem_cons, List.not_mem_nil, or_false, not_or] at other
        rw [List.cons_append, Json.readString_plain visible other.1 other.2.1, ih]
        simp
    | short known _ ih =>
        intro done
        rw [List.cons_append, List.cons_append, Json.readString_short known, ih]
        simp
    | @unit _ _ _ _ character _ _ known _ ih =>
        intro done
        have notHigh := (Text.isSurrogate_toNat character).1
        simp only [List.cons_append]
        rw [Json.readString_unit known (by simp [notHigh]), ih, Text.unitCharacter_toNat]
        simp
  exact readString_of_strict (strict [])

theorem Renders.starts {symbol : Symbol} (renders : Renders depth symbol text) (rest : List Char) :
    Starts (text ++ rest) := by
  induction renders generalizing rest with
  | bool flag => cases flag <;> exact starts_cons (by decide) _
  | positive isWhole _ =>
      obtain ⟨first, after, rfl, isDigit⟩ := isWhole.exists_digit
      exact starts_of_isDigit isDigit _
  | lastItem _ _ ih | nextItem _ _ _ _ ih _ | lastMember _ _ ih | nextMember _ _ _ _ ih _ =>
      rw [List.append_assoc]
      exact ih _
  | _ => exact starts_cons (by decide) _

theorem Renders.skip {symbol : Symbol} (renders : Renders depth symbol text) {gap : List Char}
    (isGap : IsGap gap) (rest : List Char) : skip (gap ++ (text ++ rest)) = text ++ rest :=
  skip_append isGap (renders.starts rest).1

/-- What the reader for the symbol makes of the text, whatever follows it, if it may go to the depth
of the text. -/
def Reads (depth : Nat) : Symbol → List Char → Prop
  | .value value, text => ∀ limit fuel rest, depth ≤ limit → 2 * text.length ≤ fuel →
      Closes rest → readValue fuel limit (text ++ rest) = .ok (value, rest)
  | .items items, text => ∀ limit fuel done rest, depth ≤ limit → 2 * text.length + 1 ≤ fuel →
      readItems fuel limit done (text ++ ']' :: rest) = .ok (.list (done.reverse ++ items), rest)
  | .member field, text => ∀ limit fuel rest, depth ≤ limit → 2 * text.length ≤ fuel →
      Closes rest → ∃ afterKey colon, readKey (text ++ rest) = some (field.1, afterKey) ∧
        skip afterKey = ':' :: colon ∧ readValue fuel limit (skip colon) = .ok (field.2, rest)
  | .members fields, text => ∀ limit fuel before rest, ((before ++ fields).map Prod.fst).Nodup →
      depth ≤ limit → 2 * text.length + 1 ≤ fuel →
      readMembers fuel limit (before.map fun field => (.text field.1, field.2))
        (text ++ '}' :: rest) = .ok (.ofFields (before ++ fields), rest)

theorem reads_of_strict {value : Value}
    (starts : ∃ first after, text = first :: after ∧ first ∉ ['"', '\'', '[', '{'])
    (read : ∀ rest, Json.Stops rest → Json.readScalar (text ++ rest) = .ok (value, rest)) :
    Reads depth (.value value) text := by
  obtain ⟨first, after, rfl, other⟩ := starts
  intro limit fuel rest _ enough closes
  obtain ⟨fuel, rfl⟩ := Json.exists_fuel enough
  have lenient := readScalar_of_strict (read rest closes.stops) closes
  rw [List.cons_append] at lenient ⊢
  exact readValue_scalar other lenient

theorem readNumber_digits {digits : List Char} (isWhole : Json.IsWhole digits)
    (short : digits.length ≤ digitLimit) (stops : Json.Stops rest) (negative : Bool) :
    Json.readNumber negative (digits ++ rest) =
      .ok (.int (Number.signed negative (Nat.ofDigitChars 10 digits 0)), rest) := by
  rw [Json.readNumber_whole isWhole short stops,
    Json.ofDecimalDigits_eq (areDigits_of_isWhole isWhole).2]

theorem reads_word {word : String} {value : Value}
    (isWord : (word, value) ∈ [("null", .null), ("true", .bool true), ("false", .bool false)]) :
    Reads depth (.value value) word.toList := by
  simp only [List.mem_cons, List.not_mem_nil, or_false, Prod.mk.injEq] at isWord
  have starts : ∃ first after, word.toList = first :: after ∧ first ∉ ['"', '\'', '[', '{'] := by
    rcases isWord with ⟨rfl, _⟩ | ⟨rfl, _⟩ | ⟨rfl, _⟩ <;> exact ⟨_, _, rfl, by decide⟩
  refine reads_of_strict starts ?_
  intro rest _
  rcases isWord with ⟨rfl, rfl⟩ | ⟨rfl, rfl⟩ | ⟨rfl, rfl⟩ <;> simp [Json.readScalar]

theorem reads_positive {digits : List Char} (isWhole : Json.IsWhole digits)
    (short : digits.length ≤ digitLimit) :
    Reads depth (.value (.int (Nat.ofDigitChars 10 digits 0))) digits := by
  obtain ⟨first, after, rfl, isDigit⟩ := isWhole.exists_digit
  refine reads_of_strict ⟨first, after, rfl, isDigit.notMem (by simp [Json.IsDigit])⟩ ?_
  intro rest stops
  exact (Json.readScalar_digit isDigit _).trans (readNumber_digits isWhole short stops false)

theorem reads_negative {digits : List Char} (isWhole : Json.IsWhole digits)
    (short : digits.length ≤ digitLimit) :
    Reads depth (.value (.int (-Nat.ofDigitChars 10 digits 0))) ('-' :: digits) := by
  obtain ⟨first, after, rfl, isDigit⟩ := isWhole.exists_digit
  refine reads_of_strict ⟨_, _, rfl, by decide⟩ ?_
  intro rest stops
  exact (Json.readScalar_negative isDigit _).trans (readNumber_digits isWhole short stops true)

theorem reads_text {body characters : List Char} (spells : Spells body characters) :
    Reads depth (.value (.text (String.ofList characters))) ('"' :: (body ++ ['"'])) := by
  intro limit fuel rest _ enough _
  obtain ⟨fuel, rfl⟩ := Json.exists_fuel enough
  rw [List.cons_append, List.append_assoc]
  exact readValue_string (spells.readString rest)

theorem reads_emptyList {gap : List Char} (isGap : IsGap gap) :
    Reads (depth + 1) (.value (.list [])) ('[' :: (gap ++ [']'])) := by
  intro limit fuel rest deep enough _
  obtain ⟨fuel, rfl⟩ := Json.exists_fuel enough
  obtain ⟨limit, rfl⟩ : ∃ less, limit = less + 1 := Nat.exists_eq_add_one.mpr (by omega)
  rw [List.cons_append, List.append_assoc]
  exact readValue_emptyArray (skip_append isGap (stands_cons (by decide) rest))

theorem reads_list {gap : List Char} {items : List Value} (isGap : IsGap gap)
    (renders : Renders depth (.items items) text) (ih : Reads depth (.items items) text) :
    Reads (depth + 1) (.value (.list items)) ('[' :: (gap ++ (text ++ [']']))) := by
  intro limit fuel rest deep enough _
  simp only [List.length_cons, List.length_append] at enough
  obtain ⟨fuel, rfl⟩ : ∃ less, fuel = less + 1 := Nat.exists_eq_add_one.mpr (by omega)
  obtain ⟨limit, rfl⟩ : ∃ less, limit = less + 1 := Nat.exists_eq_add_one.mpr (by omega)
  have read := ih limit fuel [] rest (by omega) (by omega)
  have starts := renders.starts (']' :: rest)
  have skipped := renders.skip isGap (']' :: rest)
  simp only [List.cons_append, List.append_assoc, List.nil_append]
  rw [readValue_array fun after same => (starts.2 after).1 (skipped.symm.trans same), skipped, read]
  rfl

theorem reads_emptyObject {gap : List Char} (isGap : IsGap gap) :
    Reads (depth + 1) (.value (.ofFields [])) ('{' :: (gap ++ ['}'])) := by
  intro limit fuel rest deep enough _
  obtain ⟨fuel, rfl⟩ := Json.exists_fuel enough
  obtain ⟨limit, rfl⟩ : ∃ less, limit = less + 1 := Nat.exists_eq_add_one.mpr (by omega)
  rw [List.cons_append, List.append_assoc]
  exact readValue_emptyObject (skip_append isGap (stands_cons (by decide) rest))

theorem reads_object {gap : List Char} {fields : List (String × Value)} (isGap : IsGap gap)
    (distinct : (fields.map Prod.fst).Nodup) (renders : Renders depth (.members fields) text)
    (ih : Reads depth (.members fields) text) :
    Reads (depth + 1) (.value (.ofFields fields)) ('{' :: (gap ++ (text ++ ['}']))) := by
  intro limit fuel rest deep enough _
  simp only [List.length_cons, List.length_append] at enough
  obtain ⟨fuel, rfl⟩ : ∃ less, fuel = less + 1 := Nat.exists_eq_add_one.mpr (by omega)
  obtain ⟨limit, rfl⟩ : ∃ less, limit = less + 1 := Nat.exists_eq_add_one.mpr (by omega)
  have read := ih limit fuel [] rest distinct (by omega) (by omega)
  have starts := renders.starts ('}' :: rest)
  have skipped := renders.skip isGap ('}' :: rest)
  simp only [List.cons_append, List.append_assoc, List.nil_append]
  rw [readValue_object fun after same => (starts.2 after).2 (skipped.symm.trans same), skipped]
  exact read

theorem IsTail.closes {tail : List Char} (isTail : IsTail tail) {mark : Char}
    (isMark : mark ∈ [']', '}']) (after : List Char) : Closes (tail ++ mark :: after) := by
  cases isTail with
  | plain isGap =>
      have closes : Closes (mark :: after) := closes_cons
        (List.mem_append_right [' ', '\t', '\n', '\r', '/', ',', ':'] isMark) after
      exact closes.afterGap isGap
  | comma isGap _ =>
      rw [List.append_assoc]
      exact (closes_cons (by decide) _).afterGap isGap

theorem IsTail.ends {tail : List Char} (isTail : IsTail tail) (mark : Char)
    (isMark : mark ∈ [']', '}']) (after : List Char) :
    skip (tail ++ mark :: after) = mark :: after ∨
      ∃ more, skip (tail ++ mark :: after) = ',' :: more ∧ skip more = mark :: after := by
  have stands : Stands (mark :: after) := by
    simp only [List.mem_cons, List.not_mem_nil, or_false] at isMark
    rcases isMark with rfl | rfl <;> exact stands_cons (by decide) after
  cases isTail with
  | plain isGap => exact .inl (skip_append isGap stands)
  | @comma gap last isGap isLast =>
      refine .inr ⟨last ++ mark :: after, ?_, skip_append isLast stands⟩
      rw [List.append_assoc]
      exact skip_append isGap (stands_cons (by decide) _)

theorem reads_lastItem {item : Value} {tail : List Char} (ih : Reads depth (.value item) text)
    (isTail : IsTail tail) : Reads depth (.items [item]) (text ++ tail) := by
  intro limit fuel done rest deep enough
  rw [List.length_append] at enough
  obtain ⟨fuel, rfl⟩ : ∃ less, fuel = less + 1 := Nat.exists_eq_add_one.mpr (by omega)
  have read := ih limit fuel (tail ++ ']' :: rest) deep (by omega) (isTail.closes (by decide) rest)
  rw [List.append_assoc, ← List.reverse_cons]
  rcases isTail.ends ']' (by decide) rest with ends | ⟨more, comma, ends⟩
  · exact readItems_last read ends
  · exact readItems_trailing read comma ends

theorem reads_nextItem {item : Value} {items : List Value} {gap next more : List Char}
    (ih : Reads depth (.value item) text) (isGap : IsGap gap) (isNext : IsGap next)
    (renders : Renders depth (.items items) more) (moreIh : Reads depth (.items items) more) :
    Reads depth (.items (item :: items)) (text ++ (gap ++ ',' :: (next ++ more))) := by
  intro limit fuel done rest deep enough
  simp only [List.length_append, List.length_cons] at enough
  obtain ⟨fuel, rfl⟩ : ∃ less, fuel = less + 1 := Nat.exists_eq_add_one.mpr (by omega)
  simp only [List.append_assoc, List.cons_append]
  have closes : Closes (gap ++ ',' :: (next ++ (more ++ ']' :: rest))) :=
    (closes_cons (by decide) _).afterGap isGap
  have read := ih limit fuel _ deep (by omega) closes
  have comma : skip (gap ++ ',' :: (next ++ (more ++ ']' :: rest))) =
      ',' :: (next ++ (more ++ ']' :: rest)) := skip_append isGap (stands_cons (by decide) _)
  have skipped := renders.skip isNext (']' :: rest)
  have starts := renders.starts (']' :: rest)
  have goesOn := fun after same => (starts.2 after).1 (skipped.symm.trans same)
  rw [readItems_next read comma goesOn, skipped,
    moreIh limit fuel (item :: done) rest deep (by omega), List.reverse_cons, List.append_assoc]
  rfl

theorem reads_member {name key : List Char} {value : Value} {gap next : List Char}
    (spells : Spells key name) (isGap : IsGap gap) (isNext : IsGap next)
    (renders : Renders depth (.value value) text) (ih : Reads depth (.value value) text) :
    Reads depth (.member (String.ofList name, value))
      ('"' :: (key ++ '"' :: (gap ++ ':' :: (next ++ text)))) := by
  intro limit fuel rest deep enough closes
  simp only [List.length_append, List.length_cons] at enough
  refine ⟨gap ++ ':' :: (next ++ (text ++ rest)), next ++ (text ++ rest), ?_, ?_, ?_⟩
  · simp only [List.append_assoc, List.cons_append]
    exact spells.readString _
  · exact skip_append isGap (stands_cons (by decide) _)
  · rw [renders.skip isNext]
    exact ih limit fuel rest deep (by omega) closes

theorem reads_lastMember {field : String × Value} {tail : List Char}
    (ih : Reads depth (.member field) text) (isTail : IsTail tail) :
    Reads depth (.members [field]) (text ++ tail) := by
  intro limit fuel before rest distinct deep enough
  rw [List.length_append] at enough
  obtain ⟨fuel, rfl⟩ : ∃ less, fuel = less + 1 := Nat.exists_eq_add_one.mpr (by omega)
  obtain ⟨afterKey, colon, keyRead, isColon, read⟩ :=
    ih limit fuel (tail ++ '}' :: rest) deep (by omega) (isTail.closes (by decide) rest)
  have added := Json.put_fields field.2 (Json.fresh_of_nodup distinct)
  rw [List.append_assoc, Value.ofFields, ← added]
  rcases isTail.ends '}' (by decide) rest with ends | ⟨more, comma, ends⟩
  · exact readMembers_last keyRead isColon read ends
  · exact readMembers_trailing keyRead isColon read comma ends

theorem reads_nextMember {field : String × Value} {fields : List (String × Value)}
    {gap next more : List Char} (ih : Reads depth (.member field) text) (isGap : IsGap gap)
    (isNext : IsGap next) (renders : Renders depth (.members fields) more)
    (moreIh : Reads depth (.members fields) more) :
    Reads depth (.members (field :: fields)) (text ++ (gap ++ ',' :: (next ++ more))) := by
  intro limit fuel before rest distinct deep enough
  simp only [List.length_append, List.length_cons] at enough
  obtain ⟨fuel, rfl⟩ : ∃ less, fuel = less + 1 := Nat.exists_eq_add_one.mpr (by omega)
  simp only [List.append_assoc, List.cons_append]
  have closes : Closes (gap ++ ',' :: (next ++ (more ++ '}' :: rest))) :=
    (closes_cons (by decide) _).afterGap isGap
  obtain ⟨afterKey, colon, keyRead, isColon, read⟩ := ih limit fuel _ deep (by omega) closes
  have comma : skip (gap ++ ',' :: (next ++ (more ++ '}' :: rest))) =
      ',' :: (next ++ (more ++ '}' :: rest)) := skip_append isGap (stands_cons (by decide) _)
  have skipped := renders.skip isNext ('}' :: rest)
  have starts := renders.starts ('}' :: rest)
  have moreDistinct : (((before ++ [field]) ++ fields).map Prod.fst).Nodup := by
    rwa [List.append_assoc]
  have goesOn := fun after same => (starts.2 after).2 (skipped.symm.trans same)
  rw [readMembers_next keyRead isColon read comma goesOn, skipped,
    Json.put_fields field.2 (Json.fresh_of_nodup distinct),
    moreIh limit fuel (before ++ [field]) rest moreDistinct deep (by omega), List.append_assoc]
  rfl

theorem Renders.reads {symbol : Symbol} (renders : Renders depth symbol text) :
    Reads depth symbol text := by
  induction renders with
  | null => exact reads_word (by simp)
  | bool flag => cases flag <;> exact reads_word (by simp)
  | positive isWhole short => exact reads_positive isWhole short
  | negative isWhole short => exact reads_negative isWhole short
  | text spells => exact reads_text spells
  | emptyList isGap => exact reads_emptyList isGap
  | list isGap items ih => exact reads_list isGap items ih
  | emptyObject isGap => exact reads_emptyObject isGap
  | object isGap distinct members ih => exact reads_object isGap distinct members ih
  | lastItem _ isTail ih => exact reads_lastItem ih isTail
  | nextItem _ isGap isNext items ih moreIh => exact reads_nextItem ih isGap isNext items moreIh
  | member spells isGap isNext value ih => exact reads_member spells isGap isNext value ih
  | lastMember _ isTail ih => exact reads_lastMember ih isTail
  | nextMember _ isGap isNext members ih moreIh =>
      exact reads_nextMember ih isGap isNext members moreIh

theorem IsRendering.read {document : Value} {text : String}
    (isRendering : IsRendering depth document text) (shallow : depth ≤ Json.depthLimit) :
    Json5.read text = .ok document := by
  obtain ⟨before, inner, after, isBefore, renders, isAfter, whole⟩ := isRendering
  have closes : Closes after := by
    have none : Closes [] := nofun
    simpa using none.afterGap isAfter
  have ends : skip after = [] := by
    have stands : Stands [] := nofun
    simpa using skip_append isAfter stands
  have read : readValue (Json.fuelFor (inner ++ after)) Json.depthLimit (inner ++ after) =
      .ok (document, after) :=
    renders.reads _ _ after shallow (by unfold Json.fuelFor; rw [List.length_append]; omega) closes
  unfold Json5.read
  dsimp only
  rw [whole, renders.skip isBefore, read]
  simp only [ends]
  rfl

end Json5

namespace Document

open Json5 (IsGap IsRendering Renders lineEnds spells_plain)

/-- JSON with comments: however a document is written, with whatever blanks, comments and trailing
commas, it is read as that document. -/
theorem readJson5_rendering {depth : Nat} (shallow : depth ≤ Json.depthLimit) (document : Value) :
    ((∃ text, IsRendering depth document text) ↔ document.IsDocument depth) ∧
      ∀ text, IsRendering depth document text →
        readJson5 text = .ok document ∧ Format.jsonc.read text = ⟨[], .ok document⟩ ∧
          (Validator.format .jsonc).run (.text text) = pure (.ok document) := by
  refine ⟨Json5.exists_isRendering_iff, fun text isRendering => ?_⟩
  have read : readJson5 text = .ok document := by
    rw [readJson5, isRendering.read shallow]
    rfl
  have file : Format.jsonc.read text = ⟨[], .ok document⟩ := by rw [Format.read, read]
  refine ⟨read, file, ?_⟩
  simp only [Validator.run, Validator.checkFormat, file]
  rfl

def commentedDocument : Value :=
  .ofFields [("a", .list [.int 1, .text "/*,*/"]), ("b", .int (-2))]

def commentedText : String :=
  "// head\n\x7b\"a\"/* name */:[1,// one\n\"/*,*/\", ],\"b\":-2/*,*/,\x7d"

theorem isRendering_commentedText : IsRendering 2 commentedDocument commentedText := by
  have space : IsGap [' '] := .blank (by decide) .nil
  have line (comment : List Char) (inLine : ∀ character ∈ comment, character ∉ lineEnds) :
      IsGap ('/' :: '/' :: (comment ++ ['\n'])) := .line inLine (by decide) .nil
  have block (comment : List Char) (closed : ¬ ['*', '/'] <:+: comment) :
      IsGap ('/' :: '*' :: (comment ++ ['*', '/'])) := .block closed .nil
  have isOne : Json.IsWhole ['1'] := .digits (by decide) (by decide) nofun
  have isTwo : Json.IsWhole ['2'] := .digits (by decide) (by decide) nofun
  have string := @Renders.text 0 _ _ (@spells_plain "/*,*/".toList (by simp))
  have items := Renders.nextItem (.positive isOne (by decide)) .nil
    (line " one".toList (by simp [lineEnds])) (.lastItem string (.comma .nil space))
  have first := Renders.member (@spells_plain ['a'] (by simp)) (block " name ".toList (by decide))
    .nil (.list .nil items)
  have second := Renders.member (@spells_plain ['b'] (by simp)) .nil .nil
    (@Renders.negative 1 _ isTwo (by decide))
  have object := Renders.object .nil (by decide) (.nextMember first .nil .nil
    (.lastMember second (.comma (block [','] (by decide)) .nil)))
  exact ⟨_, _, [], line " head".toList (by simp [lineEnds]), object, .nil, by decide⟩

theorem readJson5_rendering_of_commentedText :
    2 ≤ Json.depthLimit ∧ IsRendering 2 commentedDocument commentedText ∧
      readJson5 commentedText = .ok commentedDocument := by
  have shallow : 2 ≤ Json.depthLimit := by decide
  have isRendering := isRendering_commentedText
  exact ⟨shallow, isRendering, ((readJson5_rendering shallow _).2 _ isRendering).1⟩

end Document
end TolerantValidation
