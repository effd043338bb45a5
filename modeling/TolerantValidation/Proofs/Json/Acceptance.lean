import TolerantValidation.Document.Format
import TolerantValidation.Proofs.Json.Steps

/-!
The strict reader accepts the grammar and nothing else: what it reads is derived, and what is
derived it reads to the end, unless a constant of another dialect stands in it.
-/

namespace TolerantValidation
namespace Json

section Completeness

/-- The reader takes a text up to what follows it, unless a constant stops it before. -/
def Passes (constants : List String) (rest : List Char)
    (result : Except Fault (Value × List Char)) : Prop :=
  match constants with
  | [] => ∃ value, result = .ok (value, rest)
  | name :: _ => result = .error (.constant name)

/-- What the reader for the symbol does with the text, whatever follows it. -/
def Passed : Symbol → Nat → List String → List Char → Prop
  | .value, depth, constants, text => ∀ fuel rest, 2 * text.length ≤ fuel → Stops rest →
      Passes constants rest (readValue fuel depth (text ++ rest))
  | .items, depth, constants, text => ∀ fuel done rest, 2 * text.length + 1 ≤ fuel →
      Passes constants rest (readItems fuel depth done (text ++ ']' :: rest))
  | .members, depth, constants, text => ∀ fuel done rest, 2 * text.length + 1 ≤ fuel →
      Passes constants rest (readMembers fuel depth done (text ++ '}' :: rest))

variable {symbol : Symbol} {depth : Nat} {constants : List String} {text rest : List Char}

theorem IsMagnitude.exists_digit {digits : Nat} {magnitude : List Char}
    (isMagnitude : IsMagnitude digits magnitude) :
    ∃ first after, magnitude = first :: after ∧ IsDigit first := by
  obtain ⟨isWhole, _, _, _⟩ := isMagnitude
  obtain ⟨first, after, rfl, isDigit⟩ := isWhole.exists_digit
  exact ⟨first, _, rfl, isDigit⟩

theorem Derives.exists_first {digits : Nat} (derives : Derives digits symbol depth constants text) :
    ∃ first after, text = first :: after ∧ isSpace first = false ∧ first ∉ [']', '}'] := by
  induction derives with
  | negative | string | emptyArray | array | emptyObject | object | lastMember | nextMember =>
      exact ⟨_, _, rfl, by decide, by decide⟩
  | word isName | constant isName =>
      simp only [List.mem_cons, List.not_mem_nil, or_false] at isName
      rcases isName with rfl | rfl | rfl <;> exact ⟨_, _, rfl, by decide, by decide⟩
  | positive isMagnitude =>
      obtain ⟨first, after, rfl, isDigit⟩ := isMagnitude.exists_digit
      exact ⟨first, after, rfl, isDigit.isSpace_eq_false, isDigit.notMem (by simp [IsDigit])⟩
  | lastItem _ _ ih | nextItem _ _ _ _ ih _ =>
      obtain ⟨first, after, rfl, others⟩ := ih
      exact ⟨first, _, rfl, others⟩

theorem passed_of_readScalar
    (starts : ∃ first after, text = first :: after ∧ first ∉ ['"', '[', '{'])
    (passes : ∀ rest, Stops rest → Passes constants rest (readScalar (text ++ rest))) :
    Passed .value depth constants text := by
  obtain ⟨first, after, rfl, other⟩ := starts
  intro fuel rest enough stops
  obtain ⟨fuel, rfl⟩ := exists_fuel enough
  rw [List.cons_append, readValue_scalar other]
  exact passes rest stops

theorem passed_word {word : String} (isWord : word ∈ ["null", "true", "false"]) :
    Passed .value depth [] word.toList := by
  simp only [List.mem_cons, List.not_mem_nil, or_false] at isWord
  rcases isWord with rfl | rfl | rfl <;>
    exact passed_of_readScalar ⟨_, _, rfl, by decide⟩ fun rest _ => by simp [Passes, readScalar]

theorem passed_constant {name : String} (isName : name ∈ ["NaN", "Infinity", "-Infinity"]) :
    Passed .value depth [name] name.toList := by
  simp only [List.mem_cons, List.not_mem_nil, or_false] at isName
  rcases isName with rfl | rfl | rfl <;>
    exact passed_of_readScalar ⟨_, _, rfl, by decide⟩ fun rest _ => by simp [Passes, readScalar]

theorem passed_positive {magnitude : List Char} (isMagnitude : IsMagnitude digitLimit magnitude) :
    Passed .value depth [] magnitude := by
  obtain ⟨first, after, rfl, isDigit⟩ := isMagnitude.exists_digit
  refine passed_of_readScalar ⟨first, after, rfl, isDigit.notMem (by simp [IsDigit])⟩
    fun rest stops => ?_
  rw [List.cons_append, readScalar_digit isDigit]
  exact isMagnitude.exists_read stops false

theorem passed_negative {magnitude : List Char} (isMagnitude : IsMagnitude digitLimit magnitude) :
    Passed .value depth [] ('-' :: magnitude) := by
  obtain ⟨first, after, rfl, isDigit⟩ := isMagnitude.exists_digit
  refine passed_of_readScalar ⟨_, _, rfl, by decide⟩ fun rest stops => ?_
  rw [List.cons_append, List.cons_append, readScalar_negative isDigit]
  exact isMagnitude.exists_read stops true

theorem passed_string {body : List Char} (isBody : IsStringBody body) :
    Passed .value depth [] ('"' :: (body ++ ['"'])) := by
  intro fuel rest enough _
  obtain ⟨fuel, rfl⟩ := exists_fuel enough
  obtain ⟨characters, read⟩ := isBody.exists_read.1 [] rest
  refine ⟨.text (String.ofList characters), ?_⟩
  rw [List.cons_append, List.append_assoc]
  exact readValue_string read

theorem passed_emptyArray {blank : List Char} (isBlank : IsBlank blank) :
    Passed .value (depth + 1) [] ('[' :: (blank ++ [']'])) := by
  intro fuel rest enough _
  obtain ⟨fuel, rfl⟩ := exists_fuel enough
  refine ⟨.list [], ?_⟩
  rw [List.cons_append, List.append_assoc]
  exact readValue_emptyArray isBlank

theorem passed_array {blank items : List Char} (isBlank : IsBlank blank)
    (derives : Derives digitLimit .items depth constants items)
    (ih : Passed .items depth constants items) :
    Passed .value (depth + 1) constants ('[' :: (blank ++ (items ++ [']']))) := by
  intro fuel rest enough _
  simp only [List.length_cons, List.length_append] at enough
  obtain ⟨fuel, rfl⟩ : ∃ less, fuel = less + 1 := Nat.exists_eq_add_one.mpr (by omega)
  have passes := ih fuel [] rest (by omega)
  obtain ⟨first, after, rfl, visible, other⟩ := derives.exists_first
  simp only [List.cons_append, List.append_assoc, List.nil_append] at passes ⊢
  rw [readValue_array isBlank visible (List.ne_of_not_mem_cons other)]
  exact passes

theorem passed_emptyObject {blank : List Char} (isBlank : IsBlank blank) :
    Passed .value (depth + 1) [] ('{' :: (blank ++ ['}'])) := by
  intro fuel rest enough _
  obtain ⟨fuel, rfl⟩ := exists_fuel enough
  refine ⟨.mapping [], ?_⟩
  rw [List.cons_append, List.append_assoc]
  exact readValue_emptyObject isBlank

theorem passed_object {blank members : List Char} (isBlank : IsBlank blank)
    (derives : Derives digitLimit .members depth constants members)
    (ih : Passed .members depth constants members) :
    Passed .value (depth + 1) constants ('{' :: (blank ++ (members ++ ['}']))) := by
  intro fuel rest enough _
  simp only [List.length_cons, List.length_append] at enough
  obtain ⟨fuel, rfl⟩ : ∃ less, fuel = less + 1 := Nat.exists_eq_add_one.mpr (by omega)
  have passes := ih fuel [] rest (by omega)
  obtain ⟨first, after, rfl, visible, other⟩ := derives.exists_first
  simp only [List.cons_append, List.append_assoc, List.nil_append] at passes ⊢
  have notEnd : first ≠ '}' := List.ne_of_not_mem_cons (List.not_mem_of_not_mem_cons other)
  rw [readValue_object isBlank visible notEnd]
  exact passes

theorem passed_lastItem {item blank : List Char} (isBlank : IsBlank blank)
    (ih : Passed .value depth constants item) :
    Passed .items depth constants (item ++ blank) := by
  intro fuel done rest enough
  rw [List.length_append] at enough
  obtain ⟨fuel, rfl⟩ : ∃ less, fuel = less + 1 := Nat.exists_eq_add_one.mpr (by omega)
  have passes := ih fuel (blank ++ ']' :: rest) (by omega) ((stops_bracket rest).afterBlank isBlank)
  rw [List.append_assoc]
  cases constants with
  | nil =>
      obtain ⟨value, read⟩ := passes
      exact ⟨_, readItems_last isBlank read⟩
  | cons name names => exact readItems_error passes

theorem passed_nextItem {more : List String} {item blank next items : List Char}
    (isBlank : IsBlank blank) (isNext : IsBlank next) (ih : Passed .value depth constants item)
    (derives : Derives digitLimit .items depth more items)
    (moreIh : Passed .items depth more items) :
    Passed .items depth (constants ++ more) (item ++ (blank ++ ',' :: (next ++ items))) := by
  intro fuel done rest enough
  simp only [List.length_append, List.length_cons] at enough
  obtain ⟨fuel, rfl⟩ : ∃ less, fuel = less + 1 := Nat.exists_eq_add_one.mpr (by omega)
  have passes := ih fuel (blank ++ ',' :: (next ++ (items ++ ']' :: rest))) (by omega)
    ((stops_comma _).afterBlank isBlank)
  simp only [List.append_assoc, List.cons_append]
  cases constants with
  | nil =>
      obtain ⟨value, read⟩ := passes
      rw [readItems_next isBlank read]
      have morePasses := moreIh fuel (value :: done) rest (by omega)
      obtain ⟨first, after, rfl, visible, _⟩ := derives.exists_first
      rw [List.cons_append, skipSpaces_append isNext visible]
      exact morePasses
  | cons name names => exact readItems_error passes

theorem passed_lastMember {key blank next value after : List Char} (isKey : IsStringBody key)
    (isBlank : IsBlank blank) (isNext : IsBlank next)
    (derives : Derives digitLimit .value depth constants value)
    (ih : Passed .value depth constants value) (isAfter : IsBlank after) :
    Passed .members depth constants
      ('"' :: (key ++ '"' :: (blank ++ ':' :: (next ++ (value ++ after))))) := by
  intro fuel done rest enough
  simp only [List.length_append, List.length_cons] at enough
  obtain ⟨fuel, rfl⟩ : ∃ less, fuel = less + 1 := Nat.exists_eq_add_one.mpr (by omega)
  have passes := ih fuel (after ++ '}' :: rest) (by omega) ((stops_brace rest).afterBlank isAfter)
  obtain ⟨first, tail, rfl, visible, _⟩ := derives.exists_first
  simp only [List.append_assoc, List.cons_append] at passes ⊢
  rw [← skipSpaces_append isNext visible] at passes
  obtain ⟨name, keyRead⟩ := isKey.exists_read.1 []
    (blank ++ ':' :: (next ++ first :: (tail ++ (after ++ '}' :: rest))))
  cases constants with
  | nil =>
      obtain ⟨value, read⟩ := passes
      exact ⟨_, readMembers_last isBlank isAfter keyRead read⟩
  | cons name names => exact readMembers_error isBlank keyRead passes

theorem passed_nextMember {more : List String}
    {key blank next value after again members : List Char} (isKey : IsStringBody key)
    (isBlank : IsBlank blank) (isNext : IsBlank next)
    (derives : Derives digitLimit .value depth constants value)
    (ih : Passed .value depth constants value) (isAfter : IsBlank after) (isAgain : IsBlank again)
    (moreDerives : Derives digitLimit .members depth more members)
    (moreIh : Passed .members depth more members) :
    Passed .members depth (constants ++ more)
      ('"' :: (key ++ '"' :: (blank ++ ':' ::
        (next ++ (value ++ (after ++ ',' :: (again ++ members))))))) := by
  intro fuel done rest enough
  simp only [List.length_append, List.length_cons] at enough
  obtain ⟨fuel, rfl⟩ : ∃ less, fuel = less + 1 := Nat.exists_eq_add_one.mpr (by omega)
  have passes := ih fuel (after ++ ',' :: (again ++ (members ++ '}' :: rest))) (by omega)
    ((stops_comma _).afterBlank isAfter)
  obtain ⟨first, tail, rfl, visible, _⟩ := derives.exists_first
  simp only [List.append_assoc, List.cons_append] at passes ⊢
  rw [← skipSpaces_append isNext visible] at passes
  obtain ⟨name, keyRead⟩ := isKey.exists_read.1 []
    (blank ++ ':' :: (next ++ first ::
      (tail ++ (after ++ ',' :: (again ++ (members ++ '}' :: rest))))))
  cases constants with
  | nil =>
      obtain ⟨value, read⟩ := passes
      rw [readMembers_next isBlank isAfter keyRead read]
      have morePasses := moreIh fuel (Value.put (.text (String.ofList name)) value done) rest
        (by omega)
      obtain ⟨second, others, rfl, nextVisible, _⟩ := moreDerives.exists_first
      rw [List.cons_append, skipSpaces_append isAgain nextVisible]
      exact morePasses
  | cons name names => exact readMembers_error isBlank keyRead passes

theorem Derives.passed (derives : Derives digitLimit symbol depth constants text) :
    Passed symbol depth constants text := by
  induction derives with
  | word isWord => exact passed_word isWord
  | constant isName => exact passed_constant isName
  | positive isMagnitude => exact passed_positive isMagnitude
  | negative isMagnitude => exact passed_negative isMagnitude
  | string isBody => exact passed_string isBody
  | emptyArray isBlank => exact passed_emptyArray isBlank
  | array isBlank items ih => exact passed_array isBlank items ih
  | emptyObject isBlank => exact passed_emptyObject isBlank
  | object isBlank members ih => exact passed_object isBlank members ih
  | lastItem _ isBlank ih => exact passed_lastItem isBlank ih
  | nextItem _ isBlank isNext items ih moreIh =>
      exact passed_nextItem isBlank isNext ih items moreIh
  | lastMember isKey isBlank isNext value isAfter ih =>
      exact passed_lastMember isKey isBlank isNext value ih isAfter
  | nextMember isKey isBlank isNext value isAfter isAgain members ih moreIh =>
      exact passed_nextMember isKey isBlank isNext value ih isAfter isAgain members moreIh

end Completeness

section Soundness

/-- What the readers return with so much fuel, they return for what the grammar derives. -/
structure Sound (fuel : Nat) : Prop where
  value {depth characters value rest} : readValue fuel depth characters = .ok (value, rest) →
    ∃ text, Derives digitLimit .value depth [] text ∧ characters = text ++ rest
  items {depth done characters value rest} :
    readItems fuel depth done characters = .ok (value, rest) →
    ∃ text, Derives digitLimit .items depth [] text ∧ characters = text ++ ']' :: rest
  members {depth done characters value rest} :
    readMembers fuel depth done characters = .ok (value, rest) →
    ∃ text, Derives digitLimit .members depth [] text ∧ characters = text ++ '}' :: rest

variable {fuel depth : Nat} {characters rest : List Char} {value : Value}

theorem derives_of_readScalar (returned : readScalar characters = .ok (value, rest)) :
    ∃ text, Derives digitLimit .value depth [] text ∧ characters = text ++ rest := by
  unfold readScalar at returned
  split at returned
  · cases returned
    exact ⟨_, .word (by simp : "null" ∈ _), rfl⟩
  · cases returned
    exact ⟨_, .word (by simp : "true" ∈ _), rfl⟩
  · cases returned
    exact ⟨_, .word (by simp : "false" ∈ _), rfl⟩
  · cases returned
  · cases returned
  · cases returned
  · obtain ⟨magnitude, isMagnitude, rfl⟩ := exists_isMagnitude returned
    exact ⟨_, .negative isMagnitude, rfl⟩
  · obtain ⟨magnitude, isMagnitude, rfl⟩ := exists_isMagnitude returned
    exact ⟨_, .positive isMagnitude, rfl⟩

theorem Sound.nextValue (sound : Sound fuel)
    (returned : readValue (fuel + 1) depth characters = .ok (value, rest)) :
    ∃ text, Derives digitLimit .value depth [] text ∧ characters = text ++ rest := by
  unfold readValue at returned
  split at returned
  · rename_i after
    split at returned
    · rename_i text left read
      cases returned
      obtain ⟨body, isBody, rfl⟩ := exists_isStringBody read
      exact ⟨_, .string isBody, by simp⟩
    · cases returned
  · rename_i after
    split at returned
    · cases returned
    · rename_i depth
      obtain ⟨blank, isBlank, whole⟩ := exists_blank after
      split at returned
      · rename_i left same
        cases returned
        exact ⟨_, .emptyArray isBlank, by rw [whole, same]; simp⟩
      · obtain ⟨items, derives, same⟩ := sound.items returned
        exact ⟨_, .array isBlank derives, by rw [whole, same]; simp⟩
  · rename_i after
    split at returned
    · cases returned
    · rename_i depth
      obtain ⟨blank, isBlank, whole⟩ := exists_blank after
      split at returned
      · rename_i left same
        cases returned
        exact ⟨_, .emptyObject isBlank, by rw [whole, same]; simp⟩
      · obtain ⟨members, derives, same⟩ := sound.members returned
        exact ⟨_, .object isBlank derives, by rw [whole, same]; simp⟩
  · exact derives_of_readScalar returned

theorem Sound.nextItems (sound : Sound fuel) {done : List Value}
    (returned : readItems (fuel + 1) depth done characters = .ok (value, rest)) :
    ∃ text, Derives digitLimit .items depth [] text ∧ characters = text ++ ']' :: rest := by
  rw [readItems] at returned
  split at returned
  · cases returned
  · rename_i item after read
    obtain ⟨text, derives, rfl⟩ := sound.value read
    obtain ⟨blank, isBlank, whole⟩ := exists_blank after
    split at returned
    · rename_i left same
      obtain ⟨next, isNext, leftWhole⟩ := exists_blank left
      obtain ⟨items, moreDerives, moreSame⟩ := sound.items returned
      refine ⟨_, .nextItem derives isBlank isNext moreDerives, ?_⟩
      rw [whole, same, leftWhole, moreSame]
      simp
    · rename_i left same
      cases returned
      exact ⟨_, .lastItem derives isBlank, by rw [whole, same]; simp⟩
    · cases returned

theorem Sound.nextMembers (sound : Sound fuel) {done : List (Value × Value)}
    (returned : readMembers (fuel + 1) depth done characters = .ok (value, rest)) :
    ∃ text, Derives digitLimit .members depth [] text ∧ characters = text ++ '}' :: rest := by
  unfold readMembers at returned
  split at returned
  · rename_i keyText
    split at returned
    · cases returned
    · rename_i key afterKey keyRead
      obtain ⟨body, isBody, rfl⟩ := exists_isStringBody keyRead
      obtain ⟨blank, isBlank, whole⟩ := exists_blank afterKey
      split at returned
      · rename_i afterColon same
        obtain ⟨next, isNext, colonWhole⟩ := exists_blank afterColon
        split at returned
        · cases returned
        · rename_i held afterValue read
          obtain ⟨text, derives, textSame⟩ := sound.value read
          obtain ⟨after, isAfter, valueWhole⟩ := exists_blank afterValue
          dsimp only at returned
          split at returned
          · rename_i left valueSame
            obtain ⟨again, isAgain, leftWhole⟩ := exists_blank left
            obtain ⟨members, moreDerives, moreSame⟩ := sound.members returned
            refine ⟨_, .nextMember isBody isBlank isNext derives isAfter isAgain moreDerives, ?_⟩
            rw [whole, same, colonWhole, textSame, valueWhole, valueSame, leftWhole, moreSame]
            simp
          · rename_i left valueSame
            cases returned
            refine ⟨_, .lastMember isBody isBlank isNext derives isAfter, ?_⟩
            rw [whole, same, colonWhole, textSame, valueWhole, valueSame]
            simp
          · cases returned
      · cases returned
  · cases returned

theorem sound (fuel : Nat) : Sound fuel := by
  induction fuel with
  | zero => exact ⟨nofun, nofun, nofun⟩
  | succ fuel ih => exact ⟨ih.nextValue, ih.nextItems, ih.nextMembers⟩

end Soundness

theorem readWithin_of_isText {depth : Nat} {constants : List String} {text : String}
    (isText : IsText digitLimit depth constants text) :
    match constants with
    | [] => ∃ value, readWithin depth text = .ok value
    | name :: _ => readWithin depth text = .error (.constant name) := by
  obtain ⟨before, value, after, isBefore, derives, isAfter, same⟩ := isText
  have stops : Stops after := by
    rw [← List.append_nil after]
    exact Stops.afterBlank nofun isAfter
  have passes := derives.passed (fuelFor (value ++ after)) after
    (by simp only [fuelFor, List.length_append]; omega) stops
  have begins : skipSpaces text.toList = value ++ after := by
    obtain ⟨first, rest, rfl, visible, _⟩ := derives.exists_first
    rw [same, List.cons_append, skipSpaces_append isBefore visible]
  unfold readWithin
  simp only [begins]
  cases constants with
  | nil =>
      obtain ⟨read, returned⟩ := passes
      refine ⟨read, ?_⟩
      rw [returned]
      simp only [skipSpaces_of_blank isAfter, List.isEmpty_nil, if_true]
  | cons name names =>
      rw [show readValue _ _ _ = _ from passes]

theorem isText_of_readWithin {depth : Nat} {text : String} {value : Value}
    (returned : readWithin depth text = .ok value) : IsText digitLimit depth [] text := by
  unfold readWithin at returned
  dsimp only at returned
  split at returned
  · cases returned
  · rename_i read rest readEq
    split at returned
    · rename_i ended
      obtain ⟨before, isBefore, whole⟩ := exists_blank text.toList
      obtain ⟨middle, derives, same⟩ := (sound _).value readEq
      obtain ⟨after, isAfter, restWhole⟩ := exists_blank rest
      rw [List.isEmpty_iff.mp ended, List.append_nil] at restWhole
      refine ⟨before, middle, after, isBefore, derives, isAfter, ?_⟩
      rw [whole, same, restWhole]
    · cases returned

end Json

namespace Document

variable {text : String} {value : Value} {name : String}

theorem readJson_eq_ok_iff : readJson text = .ok value ↔ Json.read text = .ok value := by
  unfold readJson
  cases Json.read text with
  | ok read =>
      constructor
      · rintro ⟨⟩
        rfl
      · rintro ⟨⟩
        rfl
  | error fault => exact ⟨nofun, nofun⟩

theorem readJson_of_constant (stopped : Json.read text = .error (.constant name)) :
    readJson text = .error (.constant name) := by
  unfold readJson
  rw [stopped]
  rfl

/-- Strict JSON is its grammar, however deep a text may nest, and a constant of another dialect is
refused wherever a value may stand. -/
theorem readJson_returns_iff_isText :
    (∀ depth text,
      ((∃ value, Json.readWithin depth text = .ok value) ↔
        Json.IsText digitLimit depth [] text) ∧
      ∀ name names, Json.IsText digitLimit depth (name :: names) text →
        Json.readWithin depth text = .error (.constant name)) ∧
    ∀ text,
      ((∃ value, readJson text = .ok value) ↔
        Json.IsText digitLimit Json.depthLimit [] text) ∧
      ∀ name names, Json.IsText digitLimit Json.depthLimit (name :: names) text →
        readJson text = .error (.constant name) := by
  have within (depth : Nat) (text : String) :
      (∃ value, Json.readWithin depth text = .ok value) ↔ Json.IsText digitLimit depth [] text :=
    ⟨fun ⟨_, returned⟩ => Json.isText_of_readWithin returned, Json.readWithin_of_isText⟩
  refine ⟨fun depth text => ⟨within depth text, fun _ _ => Json.readWithin_of_isText⟩,
    fun text => ⟨?_, fun name names isText => ?_⟩⟩
  · simp only [readJson_eq_ok_iff]
    exact within Json.depthLimit text
  · exact readJson_of_constant (Json.readWithin_of_isText isText)

theorem readJson_returns_iff_isText_of_nested_constant :
    Json.IsText digitLimit Json.depthLimit ["NaN"] "[1, NaN]" ∧
      readJson "[1, NaN]" = .error (.constant "NaN") := by
  have one : Json.IsWhole ['1'] := .digits (by decide) (by decide) nofun
  have short : ['1'].length ≤ digitLimit := by decide
  have none : Json.IsBlank [] := nofun
  have space : Json.IsBlank [' '] := by simp [Json.IsBlank]
  have items : Json.Derives digitLimit .items 989 ["NaN"] "1, NaN".toList :=
    .nextItem (.positive (.mk one .absent .absent fun _ _ => short)) none space
      (.lastItem (.constant (by simp)) none)
  have isText : Json.IsText digitLimit Json.depthLimit ["NaN"] "[1, NaN]" :=
    ⟨[], _, [], none, .array none items, none, rfl⟩
  exact ⟨isText, (readJson_returns_iff_isText.2 _).2 _ _ isText⟩

end Document
end TolerantValidation
