import Mathlib.Data.List.Forall2
import TolerantValidation.Proofs.Json.Acceptance
import TolerantValidation.Proofs.Json.Writing
import TolerantValidation.Proofs.Value.Filling
import TolerantValidation.Validator.Run

/-!
Documents are read as they are written: the strict reader takes the text of a document back to the
same value, with the types, the items and the entries in their order.
-/

namespace TolerantValidation

namespace Value

/-- What JSON has a form for, except reals: containers nest at most `depth` levels, and the names of
an object are distinct. -/
inductive IsDocument : Nat → Value → Prop
  | null {depth} : IsDocument depth .null
  | bool {depth} (flag : Bool) : IsDocument depth (.bool flag)
  | int {depth whole} : whole.natAbs < Nat.pow 10 digitLimit → IsDocument depth (.int whole)
  | text {depth} (text : String) : IsDocument depth (.text text)
  | list {depth items} : (∀ item ∈ items, IsDocument depth item) →
      IsDocument (depth + 1) (.list items)
  | fields {depth} {fields : List (String × Value)} : (fields.map Prod.fst).Nodup →
      (∀ field ∈ fields, IsDocument depth field.2) → IsDocument (depth + 1) (.ofFields fields)

end Value

namespace Json

/-- The text is what the writer makes of the value, and what the reader takes back to it, if both
may go to the value's depth. -/
structure IsTextOf (depth : Nat) (text : List Char) (value : Value) : Prop where
  written {limit} : depth < limit → writeWithin limit [] value = .ok text
  printable : ∀ character ∈ text, IsPrintable character
  starts : ∃ first after, text = first :: after ∧ isSpace first = false ∧ first ∉ [']', '}']
  read {limit fuel rest} : depth ≤ limit → 2 * text.length ≤ fuel → Stops rest →
    readValue fuel limit (text ++ rest) = .ok (value, rest)

variable {depth : Nat} {text : List Char} {value : Value}

theorem isTextOf_scalar (written : ∀ limit, writeWithin (limit + 1) [] value = .ok text)
    (printable : ∀ character ∈ text, IsPrintable character)
    (starts : ∃ first after, text = first :: after ∧ isSpace first = false ∧
      first ∉ ['"', '[', '{', ']', '}'])
    (read : ∀ rest, Stops rest → readScalar (text ++ rest) = .ok (value, rest)) :
    IsTextOf depth text value := by
  obtain ⟨first, after, rfl, visible, other⟩ := starts
  simp only [List.mem_cons, List.not_mem_nil, or_false, not_or] at other
  refine ⟨?_, printable, ⟨first, after, rfl, visible, by simp [other]⟩, ?_⟩
  · intro limit less
    obtain ⟨limit, rfl⟩ := Nat.exists_eq_add_one.mpr (Nat.zero_lt_of_lt less)
    exact written limit
  · intro limit fuel rest _ enough stops
    obtain ⟨fuel, rfl⟩ := exists_fuel enough
    rw [List.cons_append, readValue_scalar (by simp [other])]
    exact read rest stops

theorem isTextOf_null : IsTextOf depth "null".toList .null := by
  refine isTextOf_scalar (fun _ => rfl) ?_ ⟨_, _, rfl, by decide, by decide⟩ ?_
  · simp [IsPrintable]
  · intro rest _
    simp [readScalar]

theorem isTextOf_bool (flag : Bool) :
    IsTextOf depth (if flag then "true" else "false").toList (.bool flag) := by
  cases flag <;> refine isTextOf_scalar (fun _ => rfl) ?_ ⟨_, _, rfl, by decide, by decide⟩ ?_
  case false.refine_1 | true.refine_1 => simp [IsPrintable]
  case false.refine_2 | true.refine_2 =>
    intro rest _
    simp [readScalar]

theorem isTextOf_int {whole : Int} (short : whole.natAbs < Nat.pow 10 digitLimit) :
    IsTextOf depth (writtenWhole whole) (.int whole) := by
  have written (limit : Nat) :
      writeWithin (limit + 1) [] (.int whole) = .ok (writtenWhole whole) := by
    have shown : (wholeText whole).mapError WriteFault.text = .ok (writtenWhole whole) := by
      rw [wholeText_of_short short]
      rfl
    exact shown
  refine isTextOf_scalar written (isPrintable_writtenWhole whole) ?_
    fun rest stops => readScalar_writtenWhole short stops
  obtain ⟨first, after, same, rfl | isDigit⟩ := writtenWhole_first whole
  · exact ⟨_, after, same, by decide, by decide⟩
  · exact ⟨first, after, same, isDigit.isSpace_eq_false, isDigit.notMem (by simp [IsDigit])⟩

theorem isTextOf_text (text : String) :
    IsTextOf depth (writtenString text.toList) (.text text) := by
  refine ⟨?_, isPrintable_writtenString text.toList, ⟨_, _, rfl, by decide, by decide⟩, ?_⟩
  · intro limit less
    obtain ⟨limit, rfl⟩ := Nat.exists_eq_add_one.mpr (Nat.zero_lt_of_lt less)
    rfl
  · intro limit fuel rest _ enough _
    obtain ⟨fuel, rfl⟩ := exists_fuel enough
    have read : readString [] (text.toList.flatMap writtenCharacter ++ '"' :: rest) =
        .ok (text.toList, rest) := readString_written text.toList
    rw [writtenString, List.cons_append, List.cons_append, List.append_assoc]
    refine (readValue_string read).trans ?_
    rw [String.ofList_toList]

section Containers

theorem mapM_of_forall₂ {Item Text Stop : Type} {write : Item → Except Stop Text}
    {texts : List Text} {items : List Item}
    (written : List.Forall₂ (fun text item => write item = .ok text) texts items) :
    items.mapM write = .ok texts := by
  induction written with
  | nil => rfl
  | cons first _ ih =>
      rw [List.mapM_cons, first, ih]
      rfl

theorem exists_forall₂ {Item Text : Type} {relates : Text → Item → Prop} {items : List Item}
    (each : ∀ item ∈ items, ∃ text, relates text item) :
    ∃ texts, List.Forall₂ relates texts items := by
  induction items with
  | nil => exact ⟨[], .nil⟩
  | cons item items ih =>
      obtain ⟨⟨text, related⟩, others⟩ := List.forall_mem_cons.mp each
      obtain ⟨texts, allRelated⟩ := ih others
      exact ⟨text :: texts, .cons related allRelated⟩

theorem separated_cons {first second : List Char} {texts : List (List Char)} :
    Value.separated ", " (first :: second :: texts) =
      first ++ ',' :: ' ' :: Value.separated ", " (second :: texts) := by
  rw [Value.separated]
  · simp
  · nofun

theorem isPrintable_separated {texts : List (List Char)}
    (printable : ∀ text ∈ texts, ∀ character ∈ text, IsPrintable character) :
    ∀ character ∈ Value.separated ", " texts, IsPrintable character := by
  have comma : IsPrintable ',' ∧ IsPrintable ' ' := by
    unfold IsPrintable
    decide
  induction texts with
  | nil => nofun
  | cons first others ih =>
      obtain ⟨firstPrintable, othersPrintable⟩ := List.forall_mem_cons.mp printable
      cases others with
      | nil => exact firstPrintable
      | cons second others =>
          rw [separated_cons, List.forall_mem_append, List.forall_mem_cons, List.forall_mem_cons]
          exact ⟨firstPrintable, comma.1, comma.2, ih othersPrintable⟩

theorem isPrintable_enclosed {opening closing : Char} {texts : List (List Char)}
    (ends : IsPrintable opening ∧ IsPrintable closing)
    (printable : ∀ text ∈ texts, ∀ character ∈ text, IsPrintable character) :
    ∀ character ∈ opening :: Value.separated ", " texts ++ [closing], IsPrintable character := by
  rw [List.cons_append, List.forall_mem_cons, List.forall_mem_append, List.forall_mem_singleton]
  exact ⟨ends.1, isPrintable_separated printable, ends.2⟩

theorem writeWithin_list {limit : Nat} {items : List Value} {texts : List (List Char)}
    (written : List.Forall₂ (fun text item => writeWithin limit [] item = .ok text) texts items) :
    writeWithin (limit + 1) [] (.list items) =
      .ok ('[' :: Value.separated ", " texts ++ [']']) := by
  have shown : (items.map (Value.Held.mk · false)).mapM (fun held =>
      writeWithin limit (held.trail (.list items) []) held.value) = .ok texts := by
    rw [List.mapM_map]
    exact mapM_of_forall₂ written
  simp only [writeWithin, Value.isAround, Value.cellNumber?, Value.view, Bool.false_eq_true,
    if_false, true_or, if_true, shown]
  rfl

def memberText (name : String) (item : List Char) : List Char :=
  writtenString name.toList ++ ": ".toList ++ item

theorem writeWithin_ofFields {limit : Nat} {fields : List (String × Value)}
    {texts : List (List Char)}
    (written : List.Forall₂ (fun text (field : String × Value) =>
      ∃ item, writeWithin limit [] field.2 = .ok item ∧ text = memberText field.1 item)
      texts fields) :
    writeWithin (limit + 1) [] (.ofFields fields) =
      .ok ('{' :: Value.separated ", " texts ++ ['}']) := by
  have shown : ((fields.map fun field => (Value.text field.1, field.2)).map fun entry =>
      (entry.1, Value.Held.mk entry.2 false)).mapM (fun entry => do
        let key ← memberKey entry.1
        let item ← writeWithin limit (entry.2.trail (.ofFields fields) []) entry.2.value
        .ok (writtenString key ++ ": ".toList ++ item)) = .ok texts := by
    rw [List.mapM_map, List.mapM_map]
    refine mapM_of_forall₂ (written.imp ?_)
    rintro text field ⟨item, itemWritten, rfl⟩
    have untrailed : writeWithin limit ((Value.Held.mk field.2 false).trail (.ofFields fields) [])
        field.2 = .ok item := itemWritten
    simp only [Function.comp_apply, memberKey, untrailed]
    rfl
  simp only [Value.ofFields] at shown ⊢
  simp only [writeWithin, Value.isAround, Value.cellNumber?, Value.view, Bool.false_eq_true,
    if_false, shown]
  rfl

theorem exists_first_separated {starts : Char → Prop} {text : List Char}
    (begins : ∃ first after, text = first :: after ∧ starts first) (texts : List (List Char)) :
    ∃ first after, Value.separated ", " (text :: texts) = first :: after ∧ starts first := by
  obtain ⟨first, after, rfl, isStart⟩ := begins
  cases texts with
  | nil => exact ⟨first, after, rfl, isStart⟩
  | cons second texts => exact ⟨first, _, separated_cons, isStart⟩

variable {depth limit fuel : Nat} {text rest : List Char} {texts : List (List Char)}

theorem skipSpaces_separated
    (visible : ∃ first after, text = first :: after ∧ isSpace first = false) :
    skipSpaces (' ' :: (Value.separated ", " (text :: texts) ++ rest)) =
      Value.separated ", " (text :: texts) ++ rest := by
  obtain ⟨first, after, same, isVisible⟩ := exists_first_separated visible texts
  have space : IsBlank [' '] := by simp [IsBlank]
  rw [same]
  exact skipSpaces_append space isVisible (after ++ rest)

theorem readItems_separated {items done : List Value} {item : Value}
    (first : IsTextOf depth text item) (others : List.Forall₂ (IsTextOf depth) texts items)
    (deep : depth ≤ limit)
    (enough : 2 * (Value.separated ", " (text :: texts)).length + 1 ≤ fuel) :
    readItems fuel limit done (Value.separated ", " (text :: texts) ++ ']' :: rest) =
      .ok (.list (done.reverse ++ item :: items), rest) := by
  have none : IsBlank [] := nofun
  obtain ⟨fuel, rfl⟩ : ∃ less, fuel = less + 1 := Nat.exists_eq_add_one.mpr (by omega)
  induction others generalizing text item fuel done with
  | nil =>
      rw [Value.separated] at enough ⊢
      have read : readValue fuel limit (text ++ ']' :: rest) = .ok (item, [] ++ ']' :: rest) :=
        first.read deep (by omega) (stops_bracket rest)
      rw [readItems_last none read, List.reverse_cons]
  | @cons second next texts items secondIs _ ih =>
      rw [separated_cons] at enough ⊢
      simp only [List.length_append, List.length_cons] at enough
      have read : ∀ after, readValue fuel limit (text ++ ',' :: after) =
          .ok (item, [] ++ ',' :: after) :=
        fun after => first.read deep (by omega) (stops_comma after)
      obtain ⟨fuel, rfl⟩ : ∃ less, fuel = less + 1 := Nat.exists_eq_add_one.mpr (by omega)
      have visible : ∃ first after, second = first :: after ∧ isSpace first = false := by
        obtain ⟨first, after, same, isVisible, _⟩ := secondIs.starts
        exact ⟨first, after, same, isVisible⟩
      rw [List.append_assoc, List.cons_append, readItems_next none (read _), List.cons_append,
        skipSpaces_separated visible, ih secondIs fuel (by omega)]
      simp

def IsMemberOf (depth : Nat) (text : List Char) (field : String × Value) : Prop :=
  ∃ item, text = memberText field.1 item ∧ IsTextOf depth item field.2

theorem memberText_append (name : String) (item after : List Char) :
    memberText name item ++ after =
      '"' :: (name.toList.flatMap writtenCharacter ++ '"' :: ':' :: ' ' :: (item ++ after)) := by
  simp [memberText, writtenString]

theorem IsMemberOf.starts {field : String × Value} (isMember : IsMemberOf depth text field) :
    ∃ first after, text = first :: after ∧ isSpace first = false ∧ first ∉ [']', '}'] := by
  obtain ⟨item, rfl, _⟩ := isMember
  exact ⟨_, _, rfl, by decide, by decide⟩

theorem IsMemberOf.printable {field : String × Value} (isMember : IsMemberOf depth text field) :
    ∀ character ∈ text, IsPrintable character := by
  obtain ⟨item, rfl, isText⟩ := isMember
  have colon : ∀ character ∈ ": ".toList, IsPrintable character := by simp [IsPrintable]
  simp only [memberText, List.forall_mem_append]
  exact ⟨⟨isPrintable_writtenString _, colon⟩, isText.printable⟩

theorem IsMemberOf.read {field : String × Value} (isMember : IsMemberOf depth text field)
    (deep : depth ≤ limit) (enough : 2 * text.length ≤ fuel) {after : List Char}
    (stops : Stops after) :
    ∃ characters colon, text ++ after = '"' :: characters ∧
      readString [] characters = .ok (field.1.toList, [] ++ ':' :: colon) ∧
      readValue fuel limit (skipSpaces colon) = .ok (field.2, after) := by
  obtain ⟨item, rfl, isText⟩ := isMember
  obtain ⟨first, tail, same, visible, _⟩ := isText.starts
  refine ⟨_, ' ' :: (item ++ after), memberText_append field.1 item after,
    readString_written field.1.toList, ?_⟩
  have space : IsBlank [' '] := by simp [IsBlank]
  have skipped : skipSpaces (' ' :: (item ++ after)) = item ++ after := by
    rw [same]
    exact skipSpaces_append space visible (tail ++ after)
  rw [skipped]
  refine isText.read deep ?_ stops
  simp only [memberText, List.length_append] at enough
  omega

theorem put_fields {name : String} (value : Value) {fields : List (String × Value)}
    (fresh : name ∉ fields.map Prod.fst) :
    Value.put (.text name) value (fields.map fun field => (.text field.1, field.2)) =
      (fields ++ [(name, value)]).map fun field => (.text field.1, field.2) := by
  rw [Value.put_of_fresh, List.map_append]
  · rfl
  · rw [List.forall_mem_map]
    intro field member
    rw [Value.sameKey_text, beq_eq_false_iff_ne]
    rintro rfl
    exact fresh (List.mem_map_of_mem member)

theorem fresh_of_nodup {before fields : List (String × Value)} {field : String × Value}
    (distinct : ((before ++ field :: fields).map Prod.fst).Nodup) :
    field.1 ∉ before.map Prod.fst := by
  rw [List.map_append, List.map_cons, List.nodup_append] at distinct
  exact fun member => distinct.2.2 _ member _ List.mem_cons_self rfl

theorem readMembers_separated (before : List (String × Value)) {fields : List (String × Value)}
    {field : String × Value} (first : IsMemberOf depth text field)
    (others : List.Forall₂ (IsMemberOf depth) texts fields)
    (distinct : ((before ++ field :: fields).map Prod.fst).Nodup) (deep : depth ≤ limit)
    (enough : 2 * (Value.separated ", " (text :: texts)).length + 1 ≤ fuel) :
    readMembers fuel limit (before.map fun field => (.text field.1, field.2))
        (Value.separated ", " (text :: texts) ++ '}' :: rest) =
      .ok (.ofFields (before ++ field :: fields), rest) := by
  have none : IsBlank [] := nofun
  obtain ⟨fuel, rfl⟩ : ∃ less, fuel = less + 1 := Nat.exists_eq_add_one.mpr (by omega)
  induction others generalizing text field fuel before with
  | nil =>
      rw [Value.separated] at enough ⊢
      obtain ⟨characters, colon, begins, keyRead, read⟩ :=
        first.read deep (by omega : 2 * text.length ≤ fuel) (stops_brace rest)
      rw [begins, readMembers_last none none keyRead read]
      simp [put_fields field.2 (fresh_of_nodup distinct), Value.ofFields]
  | @cons second next texts fields secondIs _ ih =>
      rw [separated_cons] at enough ⊢
      simp only [List.length_append, List.length_cons] at enough
      obtain ⟨fuel, rfl⟩ : ∃ less, fuel = less + 1 := Nat.exists_eq_add_one.mpr (by omega)
      have visible : ∃ first after, second = first :: after ∧ isSpace first = false := by
        obtain ⟨first, after, same, isVisible, _⟩ := secondIs.starts
        exact ⟨first, after, same, isVisible⟩
      have moreDistinct : (((before ++ [field]) ++ next :: fields).map Prod.fst).Nodup := by
        rwa [List.append_assoc]
      obtain ⟨characters, colon, begins, keyRead, read⟩ :=
        first.read deep (by omega : 2 * text.length ≤ fuel + 1)
          (stops_comma (' ' :: (Value.separated ", " (second :: texts) ++ '}' :: rest)))
      rw [List.append_assoc, List.cons_append, List.cons_append, begins,
        readMembers_next none none keyRead read, skipSpaces_separated visible,
        String.ofList_toList, put_fields field.2 (fresh_of_nodup distinct),
        ih _ secondIs moreDistinct fuel (by omega), List.append_assoc]
      rfl

theorem isTextOf_list {items : List Value}
    (areTexts : List.Forall₂ (IsTextOf depth) texts items) :
    IsTextOf (depth + 1) ('[' :: Value.separated ", " texts ++ [']']) (.list items) := by
  have none : IsBlank [] := nofun
  refine ⟨fun {limit} less => ?_, ?_, ⟨_, _, rfl, by decide, by decide⟩,
    fun {limit fuel rest} deep enough _ => ?_⟩
  · obtain ⟨limit, rfl⟩ := Nat.exists_eq_add_one.mpr (Nat.zero_lt_of_lt less)
    exact writeWithin_list (areTexts.imp fun _ _ isText => isText.written (by omega))
  · have each := areTexts.imp fun _ _ isText => And.intro isText.printable isText
    refine isPrintable_enclosed ?_ ((List.forall₂_and_left _ _).mp each).1
    unfold IsPrintable
    decide
  · obtain ⟨limit, rfl⟩ := Nat.exists_eq_add_one.mpr (Nat.zero_lt_of_lt deep)
    obtain ⟨fuel, rfl⟩ := exists_fuel enough
    cases areTexts with
    | nil => exact readValue_emptyArray none
    | @cons text item texts items first others =>
        simp only [List.cons_append, List.length_cons, List.length_append] at enough
        obtain ⟨head, tail, same, visible, other⟩ := exists_first_separated first.starts texts
        have read : readItems fuel limit []
            (Value.separated ", " (text :: texts) ++ ']' :: rest) =
              .ok (.list (item :: items), rest) :=
          readItems_separated first others (by omega) (by omega)
        rw [same] at read ⊢
        simp only [List.cons_append, List.append_assoc, List.nil_append] at read ⊢
        exact (readValue_array none visible (List.ne_of_not_mem_cons other)).trans read

theorem isTextOf_ofFields {fields : List (String × Value)}
    (areMembers : List.Forall₂ (IsMemberOf depth) texts fields)
    (distinct : (fields.map Prod.fst).Nodup) :
    IsTextOf (depth + 1) ('{' :: Value.separated ", " texts ++ ['}']) (.ofFields fields) := by
  have none : IsBlank [] := nofun
  refine ⟨fun {limit} less => ?_, ?_, ⟨_, _, rfl, by decide, by decide⟩,
    fun {limit fuel rest} deep enough _ => ?_⟩
  · obtain ⟨limit, rfl⟩ := Nat.exists_eq_add_one.mpr (Nat.zero_lt_of_lt less)
    refine writeWithin_ofFields (areMembers.imp ?_)
    rintro text field ⟨item, same, isText⟩
    exact ⟨item, isText.written (by omega), same⟩
  · have each := areMembers.imp fun _ _ isMember => And.intro isMember.printable isMember
    refine isPrintable_enclosed ?_ ((List.forall₂_and_left _ _).mp each).1
    unfold IsPrintable
    decide
  · obtain ⟨limit, rfl⟩ := Nat.exists_eq_add_one.mpr (Nat.zero_lt_of_lt deep)
    obtain ⟨fuel, rfl⟩ := exists_fuel enough
    cases areMembers with
    | nil => exact readValue_emptyObject none
    | @cons text field texts fields first others =>
        simp only [List.cons_append, List.length_cons, List.length_append] at enough
        obtain ⟨head, tail, same, visible, other⟩ := exists_first_separated first.starts texts
        have read : readMembers fuel limit []
            (Value.separated ", " (text :: texts) ++ '}' :: rest) =
              .ok (.ofFields (field :: fields), rest) :=
          readMembers_separated [] first others distinct (by omega) (by omega)
        have notEnd : head ≠ '}' :=
          List.ne_of_not_mem_cons (List.not_mem_of_not_mem_cons other)
        rw [same] at read ⊢
        simp only [List.cons_append, List.append_assoc, List.nil_append] at read ⊢
        exact (readValue_object none visible notEnd).trans read

end Containers

theorem exists_isTextOf {depth : Nat} {value : Value} (isDocument : value.IsDocument depth) :
    ∃ text, IsTextOf depth text value := by
  induction isDocument with
  | null => exact ⟨_, isTextOf_null⟩
  | bool flag => exact ⟨_, isTextOf_bool flag⟩
  | int short => exact ⟨_, isTextOf_int short⟩
  | text text => exact ⟨_, isTextOf_text text⟩
  | list _ ih =>
      obtain ⟨texts, areTexts⟩ := exists_forall₂ ih
      exact ⟨_, isTextOf_list areTexts⟩
  | @fields depth fields distinct _ ih =>
      have each : ∀ field ∈ fields, ∃ text, IsMemberOf depth text field := by
        intro field member
        obtain ⟨item, isText⟩ := ih field member
        exact ⟨memberText field.1 item, item, rfl, isText⟩
      obtain ⟨texts, areMembers⟩ := exists_forall₂ each
      exact ⟨_, isTextOf_ofFields areMembers distinct⟩

theorem IsTextOf.readWithin {depth limit : Nat} {text : List Char} {value : Value}
    (isText : IsTextOf depth text value) (deep : depth ≤ limit) :
    readWithin limit (String.ofList text) = .ok value := by
  obtain ⟨first, after, same, visible, _⟩ := isText.starts
  have begins : skipSpaces text = text := by
    rw [same]
    exact skipSpaces_append (nofun : IsBlank []) visible after
  have read : readValue (fuelFor text) limit (text ++ []) = .ok (value, []) :=
    isText.read deep (by unfold fuelFor; omega) nofun
  rw [List.append_nil] at read
  simp only [Json.readWithin, String.toList_ofList, begins, read]
  rfl

end Json

namespace Document

open Value (IsDocument)

/-- Every document has one text, which is printable ASCII: the writer gives it and the reader takes
it back to the document, wherever both may nest so deep. -/
theorem readJson_write {depth : Nat} {value : Value} (isDocument : IsDocument depth value) :
    ∃ text : String,
      (∀ limit, depth < limit → Json.writeWithin limit [] value = .ok text.toList) ∧
      (∀ character ∈ text.toList, Json.IsPrintable character) ∧
      (∀ limit, depth ≤ limit → Json.readWithin limit text = .ok value) ∧
      (depth < Value.writingLimit →
        Json.write value = .ok text ∧ readJson text = .ok value ∧
        (Validator.format .json).run (.text text) = pure (.ok value)) := by
  obtain ⟨characters, isText⟩ := Json.exists_isTextOf isDocument
  refine ⟨String.ofList characters, fun limit less => ?_, ?_, fun limit deep => ?_, fun less => ?_⟩
  · rw [String.toList_ofList]
    exact isText.written less
  · rw [String.toList_ofList]
    exact isText.printable
  · exact isText.readWithin deep
  · have written : Json.write value = .ok (String.ofList characters) := by
      rw [Json.write, isText.written less]
      rfl
    have read : readJson (String.ofList characters) = .ok value :=
      readJson_eq_ok_iff.mpr (isText.readWithin (Nat.le_of_lt less))
    refine ⟨written, read, ?_⟩
    simp only [Validator.run, Validator.checkFormat, Format.read, read]
    rfl

def nestedDocument : Value :=
  .ofFields [("b", .list [.int (-12), .null, .text "é😀\n"]), ("a", .bool true)]

def nestedText : String :=
  "\x7b\"b\": [-12, null, \"\\u00e9\\ud83d\\ude00\\n\"], \"a\": true\x7d"

theorem readJson_write_of_nestedDocument :
    IsDocument 2 nestedDocument ∧
      Json.write nestedDocument = .ok nestedText ∧ readJson nestedText = .ok nestedDocument := by
  have short : (-12 : Int).natAbs < Nat.pow 10 digitLimit := by
    rw [Nat.pow_eq]
    exact Nat.lt_of_lt_of_le (by decide : 12 < Nat.pow 10 2)
      (Nat.pow_le_pow_right (by decide) (by decide))
  have isDocument : IsDocument 2 nestedDocument := by
    refine .fields (by decide) ?_
    simp only [List.forall_mem_cons, List.not_mem_nil, false_implies, implies_true, and_true]
    refine ⟨.list ?_, .bool true⟩
    simp only [List.forall_mem_cons, List.not_mem_nil, false_implies, implies_true, and_true]
    exact ⟨.int short, .null, .text _⟩
  obtain ⟨text, _, _, _, within⟩ := readJson_write isDocument
  obtain ⟨written, read, _⟩ := within (by decide)
  have shown : (Json.write nestedDocument).toOption = some nestedText := by decide +kernel
  rw [written] at shown
  cases shown
  exact ⟨isDocument, written, read⟩

end Document
end TolerantValidation
