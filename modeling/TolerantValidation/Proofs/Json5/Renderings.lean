import TolerantValidation.Proofs.Json.RoundTrip
import TolerantValidation.Proofs.Json5.Numbers

/-!
Documents written as JSON with comments: with blanks and comments around every token, and with an
optional comma behind the last part of a container. What is written so are the documents, each in
many ways.
-/

namespace TolerantValidation.Json5

open Value (IsDocument)

/-- What is written between the quotes for the characters of a string. -/
inductive Spells : List Char → List Char → Prop
  | nil : Spells [] []
  | plain {character body characters} : ' ' ≤ character →
      character ∉ ['"', '\\', '\u2028', '\u2029'] → Spells body characters →
      Spells (character :: body) (character :: characters)
  | short {escape character body characters} : Json.shortEscape? escape = some character →
      Spells body characters → Spells ('\\' :: escape :: body) (character :: characters)
  | unit {a b c d character body characters} : Text.hexUnit? a b c d = some character.toNat →
      Spells body characters →
      Spells ('\\' :: 'u' :: a :: b :: c :: d :: body) (character :: characters)

inductive Symbol where
  | value (value : Value)
  | items (items : List Value)
  | member (field : String × Value)
  | members (fields : List (String × Value))

/-- What may stand behind the last part of a container. -/
inductive IsTail : List Char → Prop
  | plain {gap} : IsGap gap → IsTail gap
  | comma {gap last} : IsGap gap → IsGap last → IsTail (gap ++ ',' :: last)

/-- The text is one of those for the symbol, with containers that nest at most `depth` levels. -/
inductive Renders : Nat → Symbol → List Char → Prop
  | null {depth} : Renders depth (.value .null) "null".toList
  | bool {depth} (flag : Bool) :
      Renders depth (.value (.bool flag)) (if flag then "true" else "false").toList
  | positive {depth digits} : Json.IsWhole digits → digits.length ≤ digitLimit →
      Renders depth (.value (.int (Nat.ofDigitChars 10 digits 0))) digits
  | negative {depth digits} : Json.IsWhole digits → digits.length ≤ digitLimit →
      Renders depth (.value (.int (-Nat.ofDigitChars 10 digits 0))) ('-' :: digits)
  | text {depth body characters} : Spells body characters →
      Renders depth (.value (.text (String.ofList characters))) ('"' :: (body ++ ['"']))
  | emptyList {depth gap} : IsGap gap →
      Renders (depth + 1) (.value (.list [])) ('[' :: (gap ++ [']']))
  | list {depth gap items text} : IsGap gap → Renders depth (.items items) text →
      Renders (depth + 1) (.value (.list items)) ('[' :: (gap ++ (text ++ [']'])))
  | emptyObject {depth gap} : IsGap gap →
      Renders (depth + 1) (.value (.ofFields [])) ('{' :: (gap ++ ['}']))
  | object {depth gap fields text} : IsGap gap → (fields.map Prod.fst).Nodup →
      Renders depth (.members fields) text →
      Renders (depth + 1) (.value (.ofFields fields)) ('{' :: (gap ++ (text ++ ['}'])))
  | lastItem {depth item text tail} : Renders depth (.value item) text → IsTail tail →
      Renders depth (.items [item]) (text ++ tail)
  | nextItem {depth item items text gap next more} : Renders depth (.value item) text → IsGap gap →
      IsGap next → Renders depth (.items items) more →
      Renders depth (.items (item :: items)) (text ++ (gap ++ ',' :: (next ++ more)))
  | member {depth name key value gap next text} : Spells key name → IsGap gap → IsGap next →
      Renders depth (.value value) text →
      Renders depth (.member (String.ofList name, value))
        ('"' :: (key ++ '"' :: (gap ++ ':' :: (next ++ text))))
  | lastMember {depth field text tail} : Renders depth (.member field) text → IsTail tail →
      Renders depth (.members [field]) (text ++ tail)
  | nextMember {depth field fields text gap next more} : Renders depth (.member field) text →
      IsGap gap → IsGap next → Renders depth (.members fields) more →
      Renders depth (.members (field :: fields)) (text ++ (gap ++ ',' :: (next ++ more)))

/-- The document as JSON with blanks and comments, also at both ends. -/
def IsRendering (depth : Nat) (document : Value) (text : String) : Prop :=
  ∃ before inner after, IsGap before ∧ Renders depth (.value document) inner ∧ IsGap after ∧
    text.toList = before ++ (inner ++ after)

section Documents

variable {depth : Nat} {text : List Char}

theorem spells_plain {characters : List Char}
    (plain : ∀ character ∈ characters, ' ' ≤ character ∧
      character ∉ ['"', '\\', '\u2028', '\u2029']) : Spells characters characters := by
  induction characters with
  | nil => exact .nil
  | cons character characters ih =>
      obtain ⟨⟨visible, other⟩, others⟩ := List.forall_mem_cons.mp plain
      exact .plain visible other (ih others)

theorem exists_spells (characters : List Char) : ∃ body, Spells body characters := by
  induction characters with
  | nil => exact ⟨[], .nil⟩
  | cons character characters ih =>
      obtain ⟨body, spells⟩ := ih
      by_cases isUnit : character.toNat < 0x10000
      · exact ⟨_, .unit (Text.hexUnit?_digitChar isUnit) spells⟩
      · have visible : ' ' ≤ character := by
          have blank : ' '.toNat = 0x20 := rfl
          have least : ' '.toNat ≤ character.toNat := by omega
          exact least
        have other : character ∉ ['"', '\\', '\u2028', '\u2029'] := by
          intro member
          simp only [List.mem_cons, List.not_mem_nil, or_false] at member
          rcases member with rfl | rfl | rfl | rfl <;> exact isUnit (by decide)
        exact ⟨_, .plain visible other spells⟩

theorem exists_renders_int {whole : Int} (short : whole.natAbs < Nat.pow 10 digitLimit) :
    ∃ text, Renders depth (.value (.int whole)) text := by
  rw [Nat.pow_eq] at short
  have isWhole := Json.isWhole_toDigits whole.natAbs
  have fits := (Nat.length_toDigits_le_iff (by decide) (by decide)).mpr short
  have value := @Nat.ofDigitChars_ten_toDigits whole.natAbs
  by_cases negative : whole < 0
  · have same : whole = -Nat.ofDigitChars 10 (Nat.toDigits 10 whole.natAbs) 0 := by
      rw [value]
      omega
    rw [same]
    exact ⟨_, .negative isWhole fits⟩
  · have same : whole = Nat.ofDigitChars 10 (Nat.toDigits 10 whole.natAbs) 0 := by
      rw [value]
      omega
    rw [same]
    exact ⟨_, .positive isWhole fits⟩

theorem exists_renders_items {items : List Value} (some : items ≠ [])
    (each : ∀ item ∈ items, ∃ text, Renders depth (.value item) text) :
    ∃ text, Renders depth (.items items) text := by
  induction items with
  | nil => exact absurd rfl some
  | cons item items ih =>
      obtain ⟨⟨first, renders⟩, others⟩ := List.forall_mem_cons.mp each
      by_cases last : items = []
      · subst last
        exact ⟨_, .lastItem renders (.plain .nil)⟩
      · obtain ⟨more, moreRenders⟩ := ih last others
        exact ⟨_, .nextItem renders .nil .nil moreRenders⟩

theorem exists_renders_members {fields : List (String × Value)} (some : fields ≠ [])
    (each : ∀ field ∈ fields, ∃ text, Renders depth (.value field.2) text) :
    ∃ text, Renders depth (.members fields) text := by
  induction fields with
  | nil => exact absurd rfl some
  | cons field fields ih =>
      obtain ⟨⟨first, renders⟩, others⟩ := List.forall_mem_cons.mp each
      obtain ⟨name, value⟩ := field
      obtain ⟨key, spells⟩ := exists_spells name.toList
      have member := Renders.member spells .nil .nil renders
      rw [String.ofList_toList] at member
      by_cases last : fields = []
      · subst last
        exact ⟨_, .lastMember member (.plain .nil)⟩
      · obtain ⟨more, moreRenders⟩ := ih last others
        exact ⟨_, .nextMember member .nil .nil moreRenders⟩

theorem exists_renders {document : Value} (isDocument : IsDocument depth document) :
    ∃ text, Renders depth (.value document) text := by
  induction isDocument with
  | null => exact ⟨_, .null⟩
  | bool flag => exact ⟨_, .bool flag⟩
  | int short => exact exists_renders_int short
  | @text depth text =>
      obtain ⟨body, spells⟩ := exists_spells text.toList
      have renders := @Renders.text depth _ _ spells
      rw [String.ofList_toList] at renders
      exact ⟨_, renders⟩
  | @list depth items _ ih =>
      by_cases empty : items = []
      · subst empty
        exact ⟨_, .emptyList .nil⟩
      · obtain ⟨text, renders⟩ := exists_renders_items empty ih
        exact ⟨_, .list .nil renders⟩
  | @fields depth fields distinct _ ih =>
      by_cases empty : fields = []
      · subst empty
        exact ⟨_, .emptyObject .nil⟩
      · obtain ⟨text, renders⟩ := exists_renders_members empty ih
        exact ⟨_, .object .nil distinct renders⟩

theorem ofDigitChars_lt {digits : List Char} (all : ∀ digit ∈ digits, Json.IsDigit digit)
    (start : Nat) : Nat.ofDigitChars 10 digits start < (start + 1) * Nat.pow 10 digits.length := by
  induction digits generalizing start with
  | nil => simp
  | cons digit digits ih =>
      obtain ⟨⟨_, most⟩, others⟩ := List.forall_mem_cons.mp all
      have upper : digit.toNat ≤ '9'.toNat := most
      have nine : '9'.toNat = 57 := rfl
      have zero : '0'.toNat = 48 := rfl
      have bound := ih others (10 * start + (digit.toNat - '0'.toNat))
      have step : 10 * start + (digit.toNat - '0'.toNat) + 1 ≤ (start + 1) * 10 := by omega
      rw [Nat.pow_eq] at bound
      rw [Nat.ofDigitChars_cons, List.length_cons, Nat.pow_eq, Nat.pow_succ', ← Nat.mul_assoc]
      exact Nat.lt_of_lt_of_le bound (Nat.mul_le_mul_right _ step)

theorem ofDigitChars_short {digits : List Char} {limit : Nat} (isWhole : Json.IsWhole digits)
    (short : digits.length ≤ limit) : Nat.ofDigitChars 10 digits 0 < Nat.pow 10 limit := by
  have bound := ofDigitChars_lt (areDigits_of_isWhole isWhole).2 0
  rw [Nat.zero_add, Nat.one_mul] at bound
  exact Nat.lt_of_lt_of_le bound (Nat.pow_le_pow_right (by decide) short)

theorem Renders.isDocument {symbol : Symbol} (renders : Renders depth symbol text) :
    match symbol with
    | .value document => IsDocument depth document
    | .items items => ∀ item ∈ items, IsDocument depth item
    | .member field => IsDocument depth field.2
    | .members fields => ∀ field ∈ fields, IsDocument depth field.2 := by
  induction renders with
  | null => exact .null
  | bool flag => exact .bool flag
  | positive isWhole short =>
      refine .int ?_
      rw [Int.natAbs_natCast]
      exact ofDigitChars_short isWhole short
  | negative isWhole short =>
      refine .int ?_
      rw [Int.natAbs_neg, Int.natAbs_natCast]
      exact ofDigitChars_short isWhole short
  | text _ => exact .text _
  | emptyList _ => exact .list nofun
  | list _ _ ih => exact .list ih
  | emptyObject _ => exact .fields .nil nofun
  | object _ distinct _ ih => exact .fields distinct ih
  | lastItem _ _ ih => exact List.forall_mem_singleton.mpr ih
  | nextItem _ _ _ _ ih moreIh => exact List.forall_mem_cons.mpr ⟨ih, moreIh⟩
  | member _ _ _ _ ih => exact ih
  | lastMember _ _ ih => exact List.forall_mem_singleton.mpr ih
  | nextMember _ _ _ _ ih moreIh => exact List.forall_mem_cons.mpr ⟨ih, moreIh⟩

theorem exists_isRendering_iff {document : Value} :
    (∃ text, IsRendering depth document text) ↔ IsDocument depth document := by
  constructor
  · rintro ⟨_, _, _, _, _, renders, _⟩
    exact renders.isDocument
  · intro isDocument
    obtain ⟨inner, renders⟩ := exists_renders isDocument
    exact ⟨String.ofList inner, [], inner, [], .nil, renders, .nil, by simp⟩

end Documents

end TolerantValidation.Json5
