import TolerantValidation.Proofs.Application.Grouping
import TolerantValidation.Proofs.Json.Writing
import TolerantValidation.Proofs.Record.Fitting

/-!
Texts of paths tell positions apart: whoever knows the text of a path of whole numbers and plain
names knows the path. Names hold no point and no bracket, so a text falls into its segments in one
way only.
-/

namespace TolerantValidation

theorem eq_of_append_eq {Item : Type} {holds : Item → Prop}
    {left right leftRest rightRest : List Item}
    (leftHolds : ∀ item ∈ left, holds item) (rightHolds : ∀ item ∈ right, holds item)
    (leftStops : ∀ item after, leftRest = item :: after → ¬ holds item)
    (rightStops : ∀ item after, rightRest = item :: after → ¬ holds item)
    (same : left ++ leftRest = right ++ rightRest) : left = right ∧ leftRest = rightRest := by
  induction left generalizing right with
  | nil =>
      cases right with
      | nil => exact ⟨rfl, same⟩
      | cons item right => exact absurd (rightHolds item (.head _)) (leftStops item _ same)
  | cons item left ih =>
      cases right with
      | nil => exact absurd (leftHolds item (.head _)) (rightStops item _ same.symm)
      | cons other right =>
          rw [List.cons_append, List.cons_append] at same
          obtain ⟨rfl, restSame⟩ := List.cons.inj same
          have tails := ih (fun item member => leftHolds item (.tail _ member))
            (fun item member => rightHolds item (.tail _ member)) restSame
          exact ⟨congrArg _ tails.1, tails.2⟩

theorem forall₂_of_mapM {Item Text Stop : Type} {write : Item → Except Stop Text}
    {items : List Item} {texts : List Text} (written : items.mapM write = .ok texts) :
    List.Forall₂ (fun item text => write item = .ok text) items texts := by
  induction items generalizing texts with
  | nil =>
      cases written
      exact .nil
  | cons item rest ih =>
      rw [List.mapM_cons] at written
      obtain ⟨text, first, written⟩ := Record.bind_eq_ok_iff.mp written
      obtain ⟨others, restWritten, same⟩ := Record.bind_eq_ok_iff.mp written
      cases same
      exact .cons first (ih restWritten)

section WholeNumbers

variable {whole : Int} {characters : List Char}

theorem eq_of_wholeText (written : wholeText whole = .ok characters) :
    characters = (if whole < 0 then ['-'] else []) ++ Nat.toDigits 10 whole.natAbs := by
  unfold wholeText at written
  split at written
  · cases written
    rfl
  · cases written

theorem isDigit_of_mem_wholeText (written : wholeText whole = .ok characters) {character : Char}
    (member : character ∈ characters) : character = '-' ∨ Json.IsDigit character := by
  rw [eq_of_wholeText written, List.mem_append] at member
  rcases member with sign | digit
  · split at sign
    · exact .inl (List.mem_singleton.mp sign)
    · cases sign
  · exact .inr (Json.isDigit_of_mem_toDigits digit)

theorem toDigits_ne_minus (number : Nat) (rest : List Char) :
    Nat.toDigits 10 number ≠ '-' :: rest := by
  intro same
  have member : '-' ∈ Nat.toDigits 10 number := same ▸ List.mem_cons_self
  have isDigit : Json.IsDigit '-' := Json.isDigit_of_mem_toDigits member
  exact absurd isDigit (by unfold Json.IsDigit; decide)

theorem toDigits_injective {first second : Nat}
    (same : Nat.toDigits 10 first = Nat.toDigits 10 second) : first = second := by
  rw [← Nat.ofDigitChars_ten_toDigits (n := first), same, Nat.ofDigitChars_ten_toDigits]

theorem wholeText_injective {other : Int} (written : wholeText whole = .ok characters)
    (otherWritten : wholeText other = .ok characters) : whole = other := by
  have same := (eq_of_wholeText written).symm.trans (eq_of_wholeText otherWritten)
  by_cases negative : whole < 0 <;> by_cases otherNegative : other < 0
  · simp only [negative, otherNegative, if_true, List.append_cancel_left_eq] at same
    have := toDigits_injective same
    omega
  · simp only [negative, otherNegative, if_true, if_false, List.nil_append] at same
    exact absurd same.symm (toDigits_ne_minus _ _)
  · simp only [negative, otherNegative, if_true, if_false, List.nil_append] at same
    exact absurd same (toDigits_ne_minus _ _)
  · simp only [negative, otherNegative, if_false, List.nil_append] at same
    have := toDigits_injective same
    omega

end WholeNumbers

namespace Value

def IsMark (character : Char) : Prop :=
  character = '.' ∨ character = '['

inductive IsPlainSegment : Value → Prop
  | position (whole : Int) : IsPlainSegment (.int whole)
  | name {characters : String} : (∀ character ∈ characters.toList, ¬ IsMark character) →
      IsPlainSegment (.text characters)

/-- A path of plain segments. It does not begin with an empty name, and is not the one segment that
reads like the root. -/
structure IsPosition (path : List Value) : Prop where
  plain : ∀ segment ∈ path, IsPlainSegment segment
  named : path.head? ≠ some (.text "")
  notRoot : path ≠ [.text "$"]

section Segments

variable {isFirst : Bool} {segment : Value} {shown : String}

theorem exists_digits_of_segmentText {whole : Int}
    (written : segmentText display isFirst (.int whole) = .ok shown) :
    ∃ digits, wholeText whole = .ok digits ∧ shown.toList = '[' :: (digits ++ [']']) := by
  unfold segmentText at written
  rw [display_int] at written
  cases digitsEq : wholeText whole with
  | error fault =>
      rw [digitsEq] at written
      cases written
  | ok digits =>
      rw [digitsEq] at written
      cases written
      exact ⟨digits, rfl, by simp⟩

theorem exists_mark_of_segmentText (written : segmentText display false segment = .ok shown) :
    ∃ mark after, shown.toList = mark :: after ∧ IsMark mark := by
  cases displayed : segment.display with
  | error fault =>
      unfold segmentText at written
      rw [displayed] at written
      split at written <;> cases written
  | ok text =>
      unfold segmentText at written
      rw [displayed] at written
      split at written <;> cases written
      · exact ⟨'[', text.toList ++ [']'], by simp, .inr rfl⟩
      · exact ⟨'[', text.toList ++ [']'], by simp, .inr rfl⟩
      · exact ⟨'.', text.toList, by simp, .inl rfl⟩

/-- What follows a segment: nothing, or the mark of the next one. -/
def IsBehind (rest : List Char) : Prop :=
  ∀ character after, rest = character :: after → IsMark character

theorem isBehind_join {segments : List Value} {texts : List String}
    (written : List.Forall₂ (fun segment text => segmentText display false segment = .ok text)
      segments texts) : IsBehind (String.join texts).toList := by
  cases written with
  | nil =>
      intro character after same
      cases same
  | cons first _ =>
      obtain ⟨mark, behind, shown, isMark⟩ := exists_mark_of_segmentText first
      intro character after same
      rw [String.join_cons, String.toList_append, shown, List.cons_append] at same
      exact (List.cons.inj same).1 ▸ isMark

theorem name_ne_position {characters : String} {whole : Int} {text : String}
    (plain : IsPlainSegment (.text characters)) (named : isFirst = true → characters ≠ "")
    (written : segmentText display isFirst (.int whole) = .ok text) (rest otherRest : List Char) :
    (if isFirst then characters else "." ++ characters).toList ++ rest ≠
      text.toList ++ otherRest := by
  obtain ⟨digits, _, shown⟩ := exists_digits_of_segmentText written
  rw [shown]
  cases isFirst with
  | false => simp
  | true =>
      cases plain with
      | name noMarks =>
          intro same
          cases spelled : characters.toList with
          | nil => exact named rfl (String.toList_eq_nil_iff.mp spelled)
          | cons first after =>
              simp only [if_true, spelled, List.cons_append, List.cons.injEq] at same
              exact noMarks first (by simp [spelled]) (.inr same.1)

/-- The text of a path begins with the text of one plain segment only. -/
theorem segment_unique {other : Value} {text : String} {rest otherRest : List Char}
    (plain : IsPlainSegment segment) (otherPlain : IsPlainSegment other)
    (named : isFirst = true → segment ≠ .text "") (otherNamed : isFirst = true → other ≠ .text "")
    (written : segmentText display isFirst segment = .ok shown)
    (otherWritten : segmentText display isFirst other = .ok text)
    (behind : IsBehind rest) (otherBehind : IsBehind otherRest)
    (same : shown.toList ++ rest = text.toList ++ otherRest) :
    segment = other ∧ rest = otherRest := by
  cases plain with
  | position whole =>
      cases otherPlain with
      | position otherWhole =>
          obtain ⟨digits, digitsEq, shownEq⟩ := exists_digits_of_segmentText written
          obtain ⟨otherDigits, otherEq, textEq⟩ := exists_digits_of_segmentText otherWritten
          rw [shownEq, textEq] at same
          simp only [List.cons_append, List.append_assoc, List.cons.injEq, true_and,
            List.nil_append] at same
          have inside {whole : Int} {digits : List Char} (written : wholeText whole = .ok digits) :
              ∀ character ∈ digits, character ≠ ']' := by
            rintro _ member rfl
            rcases isDigit_of_mem_wholeText written member with minus | isDigit
            · exact absurd minus (by decide)
            · exact absurd isDigit (by unfold Json.IsDigit; decide)
          have closed (rest : List Char) : ∀ character after, ']' :: rest = character :: after →
              ¬ character ≠ ']' := by
            rintro _ _ ⟨⟩ other
            exact other rfl
          obtain ⟨rfl, restSame⟩ := eq_of_append_eq (inside digitsEq) (inside otherEq)
            (closed rest) (closed otherRest) same
          exact ⟨congrArg _ (wholeText_injective digitsEq otherEq), (List.cons.inj restSame).2⟩
      | name noMarks =>
          cases otherWritten
          refine absurd same.symm (name_ne_position (.name noMarks) ?_ written _ _)
          exact fun first empty => otherNamed first (congrArg _ empty)
  | name noMarks =>
      cases otherPlain with
      | position otherWhole =>
          cases written
          refine absurd same (name_ne_position (.name noMarks) ?_ otherWritten _ _)
          exact fun first empty => named first (congrArg _ empty)
      | name otherNoMarks =>
          cases written
          cases otherWritten
          have stops {rest : List Char} (behind : IsBehind rest) : ∀ character after,
              rest = character :: after → ¬ ¬ IsMark character :=
            fun character after same noMark => noMark (behind character after same)
          have cut : _ ∧ rest = otherRest := eq_of_append_eq noMarks otherNoMarks (stops behind)
            (stops otherBehind) (by cases isFirst <;> simpa using same)
          exact ⟨congrArg _ (String.toList_inj.mp cut.1), cut.2⟩

end Segments

section Paths

variable {path other : List Value} {text : String}

theorem later_unique {texts otherTexts : List String}
    (plain : ∀ segment ∈ path, IsPlainSegment segment)
    (otherPlain : ∀ segment ∈ other, IsPlainSegment segment)
    (written : List.Forall₂ (fun segment text => segmentText display false segment = .ok text)
      path texts)
    (otherWritten : List.Forall₂ (fun segment text => segmentText display false segment = .ok text)
      other otherTexts)
    (same : (String.join texts).toList = (String.join otherTexts).toList) : path = other := by
  induction written generalizing other otherTexts with
  | nil =>
      cases otherWritten with
      | nil => rfl
      | cons first _ =>
          obtain ⟨mark, after, shown, _⟩ := exists_mark_of_segmentText first
          simp [String.join_cons, shown] at same
  | @cons segment shown path texts first rest ih =>
      cases otherWritten with
      | nil =>
          obtain ⟨mark, after, shown, _⟩ := exists_mark_of_segmentText first
          simp [String.join_cons, shown] at same
      | cons otherFirst otherRest =>
          rw [List.forall_mem_cons] at plain otherPlain
          rw [String.join_cons, String.join_cons, String.toList_append, String.toList_append]
            at same
          obtain ⟨rfl, restSame⟩ := segment_unique plain.1 otherPlain.1 (by simp) (by simp) first
            otherFirst (isBehind_join rest) (isBehind_join otherRest) same
          rw [ih plain.2 otherPlain.2 otherRest restSame]

theorem exists_parts_of_pathText {first : Value} {rest : List Value}
    (written : pathText (first :: rest) = .ok text) :
    ∃ head texts, segmentText display true first = .ok head ∧
      List.Forall₂ (fun segment text => segmentText display false segment = .ok text) rest texts ∧
      text.toList = head.toList ++ (String.join texts).toList := by
  unfold pathText pathTextBy at written
  obtain ⟨head, firstWritten, written⟩ := Record.bind_eq_ok_iff.mp written
  obtain ⟨texts, restWritten, same⟩ := Record.bind_eq_ok_iff.mp written
  cases same
  exact ⟨head, texts, firstWritten, forall₂_of_mapM restWritten, String.toList_append⟩

theorem root_unique (position : IsPosition path) (written : pathText path = .ok "$") :
    path = [] := by
  cases path with
  | nil => rfl
  | cons first rest =>
      obtain ⟨head, texts, firstWritten, restWritten, textEq⟩ := exists_parts_of_pathText written
      -- The text is that of the name "$", which begins with no bracket.
      have root : segmentText display true (.text "$") = .ok "$" := rfl
      have noMarks : ∀ character ∈ "$".toList, ¬ IsMark character := by
        simp [IsMark]
      have nothingBehind : IsBehind [] := by
        intro _ _ none
        cases none
      have shown : head.toList ++ (String.join texts).toList = "$".toList ++ [] := by
        simpa using textEq.symm
      obtain ⟨rfl, same⟩ := segment_unique (position.plain first (.head _)) (.name noMarks)
        (fun _ empty => position.named (congrArg some empty)) (by simp) firstWritten root
        (isBehind_join restWritten) nothingBehind shown
      have noRest : rest = [] := later_unique
        (fun segment member => position.plain segment (.tail _ member)) (by simp) restWritten .nil
        same
      exact absurd (by rw [noRest]) position.notRoot

theorem pathText_injective (position : IsPosition path) (otherPosition : IsPosition other)
    (written : pathText path = .ok text) (otherWritten : pathText other = .ok text) :
    path = other := by
  cases path with
  | nil =>
      cases written
      exact (root_unique otherPosition otherWritten).symm
  | cons first rest =>
      cases other with
      | nil =>
          cases otherWritten
          exact root_unique position written
      | cons otherFirst otherRest =>
          obtain ⟨head, texts, firstWritten, restWritten, textEq⟩ :=
            exists_parts_of_pathText written
          obtain ⟨otherHead, otherTexts, otherFirstWritten, otherRestWritten, otherTextEq⟩ :=
            exists_parts_of_pathText otherWritten
          have plain := List.forall_mem_cons.mp position.plain
          have otherPlain := List.forall_mem_cons.mp otherPosition.plain
          obtain ⟨rfl, same⟩ := segment_unique plain.1 otherPlain.1
            (fun _ empty => position.named (congrArg some empty))
            (fun _ empty => otherPosition.named (congrArg some empty)) firstWritten
            otherFirstWritten (isBehind_join restWritten) (isBehind_join otherRestWritten)
            (textEq.symm.trans otherTextEq)
          rw [later_unique plain.2 otherPlain.2 restWritten otherRestWritten same]

end Paths
end Value

/-- The field that an entry in the list of errors names. -/
def listedField? (entry : Value) : Option Value :=
  entry.entries?.bind (Value.get? (.text "field"))

namespace IssueAt

variable {issue : Issue}

theorem listedField?_of_toMapping {entry : Value} (listed : issue.toMapping = .ok entry) :
    ∃ field, issue.field = .ok field ∧ listedField? entry = some (.text field) := by
  obtain ⟨field, written, same⟩ := Record.bind_eq_ok_iff.mp listed
  cases same
  refine ⟨field, written, ?_⟩
  simp [listedField?, Value.ofFields, Value.get?, Value.sameKey_text]

theorem field_eq_iff {path : List Value} {text : String} (position : Value.IsPosition issue.path)
    (otherPosition : Value.IsPosition path) (written : Value.pathText path = .ok text) :
    issue.field = .ok text ↔ issue.path = path := by
  constructor
  · exact fun field => Value.pathText_injective position otherPosition field written
  · intro same
    rw [field, same, written]

end IssueAt

namespace FailureAt

variable {failure : Failure}

/-- Every group is that of one path. -/
theorem exists_path_of_group {groups : List (String × List Issue)}
    (areGroups : AreGroups failure.issues groups)
    (positions : ∀ issue ∈ failure.issues, Value.IsPosition issue.path)
    {group : String × List Issue} (member : group ∈ groups) :
    ∃ path, Value.pathText path = .ok group.1 ∧
      ∀ issue ∈ failure.issues, issue.field = .ok group.1 ↔ issue.path = path := by
  have known : .ok group.1 ∈ failure.issues.map IssueAt.field :=
    areGroups.mem_keys_iff.mp (List.mem_map_of_mem member)
  obtain ⟨first, inside, field⟩ := List.mem_map.mp known
  exact ⟨first.path, field, fun issue other =>
    IssueAt.field_eq_iff (positions issue other) (positions first inside) field⟩

theorem path_eq_of_listedField? {listed : List Value}
    (positions : ∀ issue ∈ failure.issues, Value.IsPosition issue.path)
    (mapped : failure.issues.mapM IssueAt.toMapping = .ok listed) :
    ∀ place ∈ failure.issues.zip listed, ∀ other ∈ failure.issues.zip listed,
      listedField? place.2 = listedField? other.2 → place.1.path = other.1.path := by
  intro place member other otherMember same
  have paired := forall₂_of_mapM mapped
  obtain ⟨field, written, named⟩ :=
    IssueAt.listedField?_of_toMapping (List.forall₂_zip paired member)
  obtain ⟨otherField, otherWritten, otherNamed⟩ :=
    IssueAt.listedField?_of_toMapping (List.forall₂_zip paired otherMember)
  rw [named, otherNamed] at same
  cases same
  exact Value.pathText_injective (positions _ (List.of_mem_zip member).1)
    (positions _ (List.of_mem_zip otherMember).1) written otherWritten

end FailureAt

/-- The text of a path tells which position it is. So the groups of a failure, its flat form and the
application error for it keep the issues of different positions apart. -/
theorem rendered_paths_identify_positions :
    (∀ path other text, Value.IsPosition path → Value.IsPosition other →
      Value.pathText path = .ok text → Value.pathText other = .ok text → path = other) ∧
    ∀ failure : Failure, (∀ issue ∈ failure.issues, Value.IsPosition issue.path) →
      (∀ groups, failure.fieldErrors = .ok groups → ∀ group ∈ groups, ∃ path,
        ∀ issue ∈ failure.issues, issue ∈ group.2 ↔ issue.path = path) ∧
      (∀ flat, failure.flatten = .ok flat → ∀ entry ∈ flat, ∃ path,
        Value.pathText path = .ok entry.1 ∧
        (∀ issue ∈ failure.issues, issue.field = .ok entry.1 ↔ issue.path = path) ∧
        entry.2 =
          (failure.issues.filter fun issue => issue.field = .ok entry.1).map (·.message)) ∧
      ∀ correlationId origin error,
        ApplicationError.ofFailure correlationId failure origin = .ok error →
          (∃ issue text, failure.issues = [issue] ∧ Value.pathText issue.path = .ok text ∧
            error.metadata.lookup "field" = some (.text text)) ∨
          ∃ listed, error.metadata.lookup "errors" = some (.list listed) ∧
            listed.length = failure.issues.length ∧
            ∀ place ∈ failure.issues.zip listed, ∀ other ∈ failure.issues.zip listed,
              listedField? place.2 = listedField? other.2 → place.1.path = other.1.path := by
  refine ⟨fun path other text position otherPosition written otherWritten =>
    Value.pathText_injective position otherPosition written otherWritten, ?_⟩
  intro failure positions
  refine ⟨?_, ?_, ?_⟩
  · intro groups grouped group member
    have areGroups := FailureAt.areGroups_of_fieldErrors grouped
    obtain ⟨path, _, fields⟩ := FailureAt.exists_path_of_group areGroups positions member
    refine ⟨path, fun issue inside => ?_⟩
    rw [areGroups.members group member, List.mem_filter, decide_eq_true_eq, fields issue inside]
    exact and_iff_right inside
  · intro flat flattened entry member
    obtain ⟨groups, grouped, same⟩ := Record.bind_eq_ok_iff.mp flattened
    cases same
    obtain ⟨group, groupMember, rfl⟩ := List.mem_map.mp member
    have areGroups := FailureAt.areGroups_of_fieldErrors grouped
    obtain ⟨path, written, fields⟩ :=
      FailureAt.exists_path_of_group areGroups positions groupMember
    exact ⟨path, written, fields, congrArg _ (areGroups.members group groupMember)⟩
  · intro correlationId origin error made
    have hasFields : failure.HasFields := ApplicationError.ofFailure_isWritten_iff.mp ⟨error, made⟩
    obtain ⟨code, message, metadata, standsFor⟩ := ApplicationError.exists_standsFor hasFields
    rw [ApplicationError.ofFailure_eq_of_standsFor standsFor] at made
    cases made
    cases standsFor with
    | one only field => exact .inl ⟨_, _, only, field, rfl⟩
    | several _ mapped =>
        exact .inr ⟨_, rfl, (forall₂_of_mapM mapped).length_eq.symm,
          FailureAt.path_eq_of_listedField? positions mapped⟩

/-- Digits and a closing bracket in names, an empty name between brackets and a negative number. -/
theorem rendered_paths_identify_positions_of_odd_names :
    let path := [Value.text "a1", .int 0, .text "", .int (-1), .text "2]"]
    Value.IsPosition path ∧ Value.pathText path = .ok "a1[0].[-1].2]" ∧
    ∀ other, Value.IsPosition other → Value.pathText other = .ok "a1[0].[-1].2]" →
      other = path := by
  intro path
  have position : Value.IsPosition path := by
    refine ⟨?_, by simp [path], by simp [path]⟩
    simp only [path, List.forall_mem_cons]
    exact ⟨.name (by simp [Value.IsMark]), .position 0, .name (by simp), .position (-1),
      .name (by simp [Value.IsMark]), by simp⟩
  have written : Value.pathText path = .ok "a1[0].[-1].2]" := by decide +kernel
  exact ⟨position, written, fun other otherPosition otherWritten =>
    rendered_paths_identify_positions.1 other path _ otherPosition position otherWritten written⟩

end TolerantValidation
