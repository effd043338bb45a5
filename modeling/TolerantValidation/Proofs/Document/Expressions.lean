import TolerantValidation.Proofs.Document.Fragments
import TolerantValidation.Yaml.Reader

/-!
The removal of all kinds of fragments, one after the other. No expression is left: a deleted piece
opens and closes with braces as an expression does, so two braces that come together by its deletion
stood next to each other before, or one of them is part of the mark of an earlier match.
-/

namespace TolerantValidation

namespace Document.Template

/-- The text holds an opening mark, at least one character, and a closing mark, with only allowed
characters between the marks. -/
def Encloses (isAllowed : Char → Bool) (opening closing text : String) : Prop :=
  ∃ before inner after : String, inner ≠ "" ∧
    (∀ character ∈ inner.toList, isAllowed character = true) ∧
    text = before ++ opening ++ inner ++ closing ++ after

def removeEach (kinds : List Fragment) (text : List Char) : List Char :=
  kinds.foldl (fun characters fragment => fragment.remove characters) text

namespace Fragment

def expression : Fragment := .enclosed anywhere "\x7b\x7b" "\x7d\x7d"

section Enclosed

variable {fragment kind : Fragment} {isAllowed isWider : Char → Bool} {opening closing : String}
variable {inner innerClosing outer outerClosing text : List Char}

theorem IsWithin.widen (within : fragment.IsWithin isAllowed inner innerClosing)
    (opens : outer <+: inner) (closes : outerClosing <:+ innerClosing)
    (wider : ∀ character, isAllowed character = true → isWider character = true) :
    fragment.IsWithin isWider outer outerClosing := by
  intro text rest found
  obtain ⟨piece, parts, opensPiece, closesPiece, allowed⟩ := within found
  exact ⟨piece, parts, opens.trans opensPiece, closes.trans closesPiece,
    fun character member => wider character (allowed character member)⟩

theorem isWithin_enclosed
    (allowedMarks : ∀ character ∈ opening.toList ++ closing.toList, isAllowed character = true) :
    (enclosed isAllowed opening closing).IsWithin isAllowed opening.toList closing.toList := by
  intro text rest found
  obtain ⟨inner, allowed, parts⟩ := exists_inner_of_afterEnclosed? found
  rw [List.forall_mem_append] at allowedMarks
  refine ⟨opening.toList ++ (inner ++ closing.toList), ?_, ?_, ?_, ?_⟩
  · rw [parts]
    simp only [List.append_assoc]
  · exact List.prefix_append _ _
  · rw [← List.append_assoc]
    exact List.suffix_append _ _
  · simp only [List.forall_mem_append]
    exact ⟨allowedMarks.1, allowed, allowedMarks.2⟩

theorem begins_enclosed_iff
    (allowedMark : ∀ character ∈ opening.toList, isAllowed character = true) :
    (enclosed isAllowed opening closing).Begins text ↔
      opening.toList <+: text ∧
        Reaches isAllowed closing.toList (opening.toList.length + 1) text :=
  exists_afterEnclosed?_iff allowedMark

theorem opening_of_occursIn (occurs : (enclosed isAllowed opening closing).OccursIn text) :
    opening.toList <:+: text := by
  obtain ⟨part, inside, rest, found⟩ := occurs
  exact (prefix_of_afterEnclosed? found).isInfix.trans inside.isInfix

theorem occursIn_enclosed_iff {text : String}
    (allowedMark : ∀ character ∈ opening.toList, isAllowed character = true) :
    (enclosed isAllowed opening closing).OccursIn text.toList ↔
      Encloses isAllowed opening closing text := by
  constructor
  · rintro ⟨part, ⟨before, whole⟩, begins⟩
    obtain ⟨⟨after, rfl⟩, reaches⟩ := (begins_enclosed_iff allowedMark).mp begins
    rw [reaches_append_iff allowedMark] at reaches
    obtain ⟨inner, rest, long, allowed, rfl⟩ := reaches
    refine ⟨.ofList before, .ofList inner, .ofList rest, ?_, ?_, ?_⟩
    · rw [Ne, ← String.toList_inj, String.toList_ofList]
      rintro rfl
      simp at long
    · rwa [String.toList_ofList]
    · simp only [← String.toList_inj, String.toList_append, String.toList_ofList, ← whole,
        List.append_assoc]
  · rintro ⟨before, inner, after, nonempty, allowed, rfl⟩
    refine ⟨opening.toList ++ (inner.toList ++ (closing.toList ++ after.toList)), ?_, ?_⟩
    · simp only [String.toList_append, List.append_assoc]
      exact List.suffix_append _ _
    · refine (begins_enclosed_iff allowedMark).mpr ⟨List.prefix_append _ _, ?_⟩
      rw [reaches_append_iff allowedMark]
      refine ⟨inner.toList, after.toList, ?_, allowed, rfl⟩
      rw [Nat.one_le_iff_ne_zero, Ne, List.length_eq_zero_iff]
      intro empty
      exact nonempty (String.toList_inj.mp empty)

end Enclosed

section Sequence

variable {kind : Fragment} {kinds : List Fragment} {text : List Char}

theorem removeEach_cons (text : List Char) :
    removeEach (kind :: kinds) text = removeEach kinds (kind.remove text) := rfl

theorem removeEach_sublist (cuts : ∀ fragment ∈ kinds, fragment.Cuts) (text : List Char) :
    (removeEach kinds text).Sublist text := by
  induction kinds generalizing text with
  | nil => exact List.Sublist.refl text
  | cons kind kinds ih =>
      rw [List.forall_mem_cons] at cuts
      exact (ih cuts.2 _).trans (remove_sublist cuts.1 text)

theorem removeEach_eq_self_iff (cuts : ∀ fragment ∈ kinds, fragment.Cuts) :
    removeEach kinds text = text ↔ ∀ fragment ∈ kinds, ¬ fragment.OccursIn text := by
  induction kinds with
  | nil => simp [removeEach]
  | cons kind kinds ih =>
      rw [List.forall_mem_cons] at cuts ⊢
      rw [← ih cuts.2, ← remove_eq_self_iff, removeEach_cons]
      constructor
      · intro same
        have shrinks := removeEach_sublist cuts.2 (kind.remove text)
        rw [same] at shrinks
        have unchanged := (remove_sublist cuts.1 text).antisymm shrinks
        exact ⟨unchanged, by rwa [unchanged] at same⟩
      · rintro ⟨unchanged, same⟩
        rw [unchanged, same]

/-- Removing some kinds forms no fragment of another one, if none of them does on texts with a
property that they keep. -/
theorem occursIn_of_removeEach (holds : List Char → Prop)
    (cuts : ∀ fragment ∈ kinds, fragment.Cuts)
    (keeps : ∀ fragment ∈ kinds, ∀ text, holds text → holds (fragment.remove text))
    (mirrors : ∀ fragment ∈ kinds, ∀ text, holds text → fragment.Mirrors kind text)
    (held : holds text) (occurs : kind.OccursIn (removeEach kinds text)) : kind.OccursIn text := by
  induction kinds generalizing text with
  | nil => exact occurs
  | cons fragment kinds ih =>
      rw [List.forall_mem_cons] at cuts keeps mirrors
      have later := ih cuts.2 keeps.2 mirrors.2 (keeps.1 text held) occurs
      exact occursIn_of_remove cuts.1 (mirrors.1 text held) later

end Sequence

section Expressions

variable {fragment : Fragment} {text : List Char}

theorem anywhere_eq_true : ∀ character : Char, anywhere character = true :=
  fun _ => rfl

theorem isWithin_braces {isAllowed : Char → Bool} {opening closing : String}
    (allowedMarks : ∀ character ∈ opening.toList ++ closing.toList, isAllowed character = true)
    (opens : ['\x7b'] <+: opening.toList) (closes : ['\x7d'] <:+ closing.toList) :
    (enclosed isAllowed opening closing).IsWithin anywhere ['\x7b'] ['\x7d'] :=
  (isWithin_enclosed allowedMarks).widen opens closes fun character _ => anywhere_eq_true character

theorem begins_expression_iff :
    expression.Begins text ↔
      ['\x7b', '\x7b'] <+: text ∧ Reaches anywhere ['\x7d', '\x7d'] 3 text :=
  begins_enclosed_iff fun character _ => anywhere_eq_true character

theorem mirrors_expression (within : fragment.IsWithin anywhere ['\x7b'] ['\x7d'])
    (text : List Char) : fragment.Mirrors expression text := by
  intro part _ absent begins
  obtain ⟨⟨kept, opens⟩, reaches⟩ := begins_expression_iff.mp begins
  refine begins_expression_iff.mpr ⟨?_, reaches_of_remove within ?_ reaches⟩
  -- If something is deleted behind the first brace, the next character opens the deleted piece.
  · obtain ⟨skipped, after, rfl, rfl | ⟨⟨inner, rfl⟩, _⟩⟩ :=
      exists_of_remove_eq_cons_cons within absent opens.symm
    · exact ⟨after, rfl⟩
    · exact ⟨inner ++ '\x7b' :: after, rfl⟩
  -- Likewise a piece deleted between two closing braces ends in one, before the second of them.
  · intro place rest _ absent closes
    obtain ⟨skipped, after, rfl, rfl | ⟨_, inner, rfl⟩⟩ :=
      exists_of_remove_eq_cons_cons within absent closes
    · exact reaches_zero_cons_iff.mpr (.inl ⟨after, rfl⟩)
    · exact ⟨'\x7d' :: inner, after, Nat.zero_le _, fun character _ => anywhere_eq_true character,
        by simp⟩

theorem occursIn_expression_of_backquoted
    (occurs : (enclosed anywhere "\x7b\x7b`" "`\x7d\x7d").OccursIn text) :
    expression.OccursIn text := by
  obtain ⟨part, inside, begins⟩ := occurs
  obtain ⟨opens, inner, rest, long, _, rfl⟩ :=
    (begins_enclosed_iff fun character _ => anywhere_eq_true character).mp begins
  refine ⟨_, inside, begins_expression_iff.mpr ⟨?_, ?_⟩⟩
  · exact List.IsPrefix.trans ⟨['`'], rfl⟩ opens
  · refine ⟨inner ++ ['`'], rest, ?_, fun character _ => anywhere_eq_true character, by simp⟩
    rw [List.length_append]
    have fewer : 3 ≤ inner.length := Nat.le_of_succ_le long
    omega

theorem exists_parts_of_afterExpressionKey? {rest : List Char}
    (found : afterExpressionKey? text = some rest) :
    ∃ blanks first inner value, text = blanks ++ (expressionMark ++ (first :: inner ++
      (['\x7d', '\x7d', ':'] ++ (value ++ rest)))) := by
  simp only [afterExpressionKey?] at found
  split at found
  next =>
    split at found
    next opens =>
      split at found
      next head value key =>
        obtain ⟨content, opened⟩ := List.isPrefixOf_iff_prefix.mp opens
        rw [← opened] at found key
        change some (content.dropWhile inLine) = some rest at found
        change afterMark? anywhere _ ((content.takeWhile inLine).drop 1) = _ at key
        obtain ⟨inner, _, line⟩ := exists_inner_of_afterMark? key
        cases wholeLine : content.takeWhile inLine with
        | nil => simp [wholeLine] at line
        | cons first behind =>
            rw [wholeLine, List.drop_one, List.tail_cons] at line
            refine ⟨text.takeWhile Text.isBlank, first, inner, head :: value, ?_⟩
            calc
              text = text.takeWhile Text.isBlank ++ text.dropWhile Text.isBlank :=
                List.takeWhile_append_dropWhile.symm
              _ = text.takeWhile Text.isBlank ++ (expressionMark ++
                    (content.takeWhile inLine ++ content.dropWhile inLine)) := by
                rw [← opened, List.takeWhile_append_dropWhile]
              _ = _ := by
                rw [wholeLine, line, Option.some.inj found]
                simp
      next => simp at found
    next => simp at found
  next => simp at found

theorem expressionEntry_cuts : expressionEntry.Cuts := by
  intro text rest found
  obtain ⟨blanks, first, inner, value, rfl⟩ := exists_parts_of_afterExpressionKey? found
  simp only [← List.append_assoc]
  exact List.suffix_append _ rest

theorem occursIn_expression_of_entry (occurs : expressionEntry.OccursIn text) :
    expression.OccursIn text := by
  obtain ⟨part, inside, rest, found⟩ := occurs
  obtain ⟨blanks, first, inner, value, rfl⟩ := exists_parts_of_afterExpressionKey? found
  refine ⟨_, (List.suffix_append blanks _).trans inside, begins_expression_iff.mpr
    ⟨List.prefix_append expressionMark _, expressionMark ++ first :: inner,
      ':' :: (value ++ rest), ?_, fun character _ => anywhere_eq_true character, ?_⟩⟩
  · simp [expressionMark]
  · simp

end Expressions

end Fragment

open Fragment

theorem fragments_cut : ∀ fragment ∈ fragments, fragment.Cuts := by
  simp only [fragments, List.forall_mem_cons]
  refine ⟨expressionEntry_cuts, (isWithin_enclosed ?_).cuts, (isWithin_enclosed ?_).cuts,
    (isWithin_enclosed ?_).cuts, (isWithin_enclosed ?_).cuts, (isWithin_enclosed ?_).cuts, by simp⟩
  all_goals exact List.all_eq_true.mp (by decide)

theorem toList_removeAll (text : String) :
    (removeAll text).toList = removeEach fragments text.toList := by
  rw [removeAll, String.toList_ofList]
  rfl

def removeExpressions (text : String) : List Char :=
  removeEach (fragments.take 3) text.toList

theorem toList_removeAll_eq (text : String) :
    (removeAll text).toList = removeEach (fragments.drop 3) (removeExpressions text) := by
  rw [toList_removeAll]
  rfl

theorem occursIn_expression_of_member {fragment : Fragment} {text : List Char}
    (member : fragment ∈ fragments.take 3) (occurs : fragment.OccursIn text) :
    expression.OccursIn text := by
  simp only [fragments, List.take_succ_cons, List.take_zero, List.mem_cons, List.not_mem_nil,
    or_false] at member
  obtain rfl | rfl | rfl := member
  · exact occursIn_expression_of_entry occurs
  · exact occursIn_expression_of_backquoted occurs
  · exact occurs

theorem exists_opening_of_occursIn {fragment : Fragment} {text : List Char}
    (member : fragment ∈ fragments) (occurs : fragment.OccursIn text) :
    ∃ opening ∈ ["\x7b\x7b", "\x7b%", "\x7b#"], opening.toList <:+: text := by
  rw [← List.take_append_drop 3 fragments, List.mem_append] at member
  obtain first | later := member
  · exact ⟨"\x7b\x7b", by simp, opening_of_occursIn (occursIn_expression_of_member first occurs)⟩
  · simp only [fragments, List.drop_succ_cons, List.drop_zero, List.mem_cons, List.not_mem_nil,
      or_false] at later
    obtain rfl | rfl | rfl := later
    · have backquoted : "\x7b%".toList <+: "\x7b%`".toList := ⟨['`'], rfl⟩
      exact ⟨"\x7b%", by simp, backquoted.isInfix.trans (opening_of_occursIn occurs)⟩
    · exact ⟨"\x7b%", by simp, opening_of_occursIn occurs⟩
    · exact ⟨"\x7b#", by simp, opening_of_occursIn occurs⟩

theorem not_occursIn_removeExpressions (text : String) :
    ¬ expression.OccursIn (removeExpressions text) := by
  have within : expression.IsWithin anywhere ['\x7b'] ['\x7d'] :=
    isWithin_braces (fun character _ => anywhere_eq_true character) (by decide) (by decide)
  exact not_occursIn_remove_self within.cuts (mirrors_expression within _)

theorem laterFragments_isWithin :
    ∀ fragment ∈ fragments.drop 3, fragment.IsWithin anywhere ['\x7b'] ['\x7d'] := by
  simp only [fragments, List.drop_succ_cons, List.drop_zero, List.forall_mem_cons]
  refine ⟨?_, ?_, ?_, by simp⟩
  all_goals exact isWithin_braces (List.all_eq_true.mp (by decide)) (by decide) (by decide)

theorem not_occursIn_expression (text : String) :
    ¬ expression.OccursIn (removeAll text).toList := by
  rw [toList_removeAll_eq]
  intro occurs
  refine not_occursIn_removeExpressions text
    (occursIn_of_removeEach (fun _ => True) ?_ (fun _ _ _ => id) ?_ trivial occurs)
  · exact fun fragment member => (laterFragments_isWithin fragment member).cuts
  · exact fun fragment member text _ =>
      mirrors_expression (laterFragments_isWithin fragment member) text

end Document.Template

namespace Yaml.Options

open Document.Template Document.Template.Fragment

/-- Template removal leaves no expression, whatever its later steps join; it only deletes, and it
deletes nothing from a text without opening marks. -/
theorem prepare_leaves_no_expression (meanings : TagMeanings) (text : String) :
    let prepared := ({ meanings, removesTemplates := true } : Options).prepare text
    ¬ Encloses anywhere "\x7b\x7b" "\x7d\x7d" prepared ∧
      prepared.toList.Sublist text.toList ∧
      ((∀ opening ∈ ["\x7b\x7b", "\x7b%", "\x7b#"], ¬ opening.toList <:+: text.toList) →
        prepared = text) := by
  intro prepared
  refine ⟨?_, ?_, ?_⟩
  · rw [← occursIn_enclosed_iff fun character _ => anywhere_eq_true character]
    exact not_occursIn_expression text
  · change (removeAll text).toList.Sublist _
    rw [toList_removeAll]
    exact removeEach_sublist fragments_cut _
  · intro absent
    rw [← String.toList_inj]
    change (removeAll text).toList = _
    rw [toList_removeAll, removeEach_eq_self_iff fragments_cut]
    intro fragment member occurs
    obtain ⟨opening, known, inside⟩ := exists_opening_of_occursIn member occurs
    exact absent opening known inside

/-- A statement whose deletion joins two braces, and a text in which nothing opens. -/
theorem prepare_leaves_no_expression_of_joined_braces :
    let prepare := ({ removesTemplates := true } : Options).prepare
    let joined := "\x7b\x7b% if a %\x7d\x7b b \x7d"
    prepare joined = "\x7b\x7b b \x7d" ∧
      ¬ Encloses anywhere "\x7b\x7b" "\x7d\x7d" "\x7b\x7b b \x7d" ∧
      prepare "\x7b b: 1 \x7d" = "\x7b b: 1 \x7d" := by
  intro prepare joined
  have prepared : prepare joined = "\x7b\x7b b \x7d" := by decide +kernel
  have unopened : ∀ opening ∈ ["\x7b\x7b", "\x7b%", "\x7b#"],
      ¬ opening.toList <:+: "\x7b b: 1 \x7d".toList := by decide +kernel
  obtain ⟨left, _, _⟩ := prepare_leaves_no_expression [] joined
  obtain ⟨_, _, unchanged⟩ := prepare_leaves_no_expression [] "\x7b b: 1 \x7d"
  refine ⟨prepared, ?_, unchanged unopened⟩
  rw [← prepared]
  exact left

end Yaml.Options
end TolerantValidation
