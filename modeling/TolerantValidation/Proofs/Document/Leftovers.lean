import TolerantValidation.Proofs.Document.Expressions

/-!
What one removal leaves of the fragments of a text. An expression never stays, but a statement or a
comment may: the deletion of one can bring two characters together that make the mark of another. A
text where no two such characters can meet keeps none of its fragments.
-/

namespace TolerantValidation

namespace Document.Template

def markPairs : List (Char × Char) :=
  [('\x7b', '%'), ('%', '`'), ('`', '%'), ('%', '\x7d'), ('\x7b', '#'), ('#', '\x7d')]

def openings : List (List Char) := [['\x7b', '%'], ['\x7b', '#']]

def closings : List (List Char) := [['%', '\x7d'], ['#', '\x7d']]

def StandsBeforeOpening (text : List Char) (left : Char) : Prop :=
  ∃ opening ∈ openings, left :: opening <:+: text

def StandsBehindClosing (text : List Char) (right : Char) : Prop :=
  ∃ closing ∈ closings, closing ++ [right] <:+: text

/-- A piece between an opening and a closing mark may stand between the two characters. -/
def CanMeet (text : List Char) (left right : Char) : Prop :=
  StandsBeforeOpening text left ∧ StandsBehindClosing text right

/-- No deletion between an opening and a closing mark can form a mark. -/
def IsApart (text : List Char) : Prop :=
  ∀ pair ∈ markPairs, ¬ CanMeet text pair.1 pair.2

instance (text : List Char) : Decidable (IsApart text) :=
  inferInstanceAs (Decidable (∀ pair ∈ markPairs,
    ¬ ((∃ opening ∈ openings, pair.1 :: opening <:+: text) ∧
      ∃ closing ∈ closings, closing ++ [pair.2] <:+: text)))

def IsMark (mark : List Char) : Prop :=
  mark ≠ [] ∧ mark.IsChain fun left right => (left, right) ∈ markPairs

instance (mark : List Char) : Decidable (IsMark mark) :=
  inferInstanceAs (Decidable (mark ≠ [] ∧ mark.IsChain fun left right => (left, right) ∈ markPairs))

namespace Fragment

/-- Every fragment consists of allowed characters between an opening and a closing mark. -/
def IsMarked (fragment : Fragment) (isAllowed : Char → Bool) : Prop :=
  ∃ opening ∈ openings, ∃ closing ∈ closings, fragment.IsWithin isAllowed opening closing

/-- Deleted pieces: they begin with an opening mark and end with a closing one. -/
def AreDeletable (pieces : List Char) : Prop :=
  (∃ opening ∈ openings, opening <+: pieces) ∧ ∃ closing ∈ closings, closing <:+ pieces

section Marks

variable {fragment : Fragment} {isAllowed : Char → Bool} {mark kept text part pieces : List Char}
variable {first left right : Char} {rest : List Char}

theorem standsBeforeOpening_of_areDeletable (deletable : AreDeletable pieces)
    (inside : left :: (pieces ++ rest) <:+: text) : StandsBeforeOpening text left := by
  obtain ⟨⟨opening, known, after, rfl⟩, _⟩ := deletable
  refine ⟨opening, known, List.IsInfix.trans ⟨[], after ++ rest, ?_⟩ inside⟩
  simp

theorem standsBehindClosing_of_areDeletable (deletable : AreDeletable pieces)
    (inside : pieces ++ right :: rest <:+: text) : StandsBehindClosing text right := by
  obtain ⟨_, closing, known, before, rfl⟩ := deletable
  refine ⟨closing, known, List.IsInfix.trans ⟨before, rest, ?_⟩ inside⟩
  simp

theorem canMeet_of_areDeletable (deletable : AreDeletable pieces)
    (inside : left :: (pieces ++ right :: rest) <:+: text) : CanMeet text left right :=
  ⟨standsBeforeOpening_of_areDeletable deletable inside,
    standsBehindClosing_of_areDeletable deletable ((List.suffix_cons left _).isInfix.trans inside)⟩

theorem exists_of_remove_eq_cons_of_isMarked (marked : fragment.IsMarked isAllowed)
    (result : fragment.remove part = first :: kept) :
    ∃ pieces rest, part = pieces ++ first :: rest ∧ fragment.remove rest = kept ∧
      (pieces = [] ∨ fragment.Begins part ∧ AreDeletable pieces) := by
  obtain ⟨opening, opens, closing, closes, within⟩ := marked
  obtain ⟨pieces, rest, parts, same, nothing | ⟨begins, start, stop⟩⟩ :=
    exists_of_remove_eq_cons within result
  · exact ⟨pieces, rest, parts, same, .inl nothing⟩
  · exact ⟨pieces, rest, parts, same,
      .inr ⟨begins, ⟨opening, opens, start⟩, closing, closes, stop⟩⟩

theorem exists_of_remove_eq_mark (marked : fragment.IsMarked isAllowed) (apart : IsApart text)
    (isMark : IsMark (first :: mark)) (inside : part <:+ text)
    (result : fragment.remove part = first :: (mark ++ kept)) :
    ∃ pieces rest, part = pieces ++ first :: (mark ++ rest) ∧ fragment.remove rest = kept ∧
      (pieces = [] ∨ fragment.Begins part ∧ AreDeletable pieces) := by
  induction mark generalizing first part with
  | nil => exact exists_of_remove_eq_cons_of_isMarked marked result
  | cons second mark ih =>
      obtain ⟨pair, isChain⟩ := List.isChain_cons_cons.mp isMark.2
      obtain ⟨pieces, rest, rfl, same, before⟩ :=
        exists_of_remove_eq_cons_of_isMarked marked result
      have insideRest : first :: rest <:+ text := (List.suffix_append pieces _).trans inside
      obtain ⟨between, after, rfl, sameAfter, rfl | ⟨_, deletable⟩⟩ :=
        ih ⟨by simp, isChain⟩ ((List.suffix_cons first rest).trans insideRest) same
      · exact ⟨pieces, after, rfl, sameAfter, before⟩
      -- Pieces deleted behind the first character would have brought it and the second together.
      · exact absurd (canMeet_of_areDeletable deletable insideRest.isInfix) (apart _ pair)

theorem exists_of_remove_eq_mark_of_not_begins (marked : fragment.IsMarked isAllowed)
    (apart : IsApart text) (isMark : IsMark (first :: mark)) (inside : part <:+ text)
    (absent : ¬ fragment.Begins part) (result : fragment.remove part = first :: (mark ++ kept)) :
    ∃ rest, part = first :: (mark ++ rest) ∧ fragment.remove rest = kept := by
  obtain ⟨pieces, rest, parts, same, rfl | ⟨begins, _⟩⟩ :=
    exists_of_remove_eq_mark marked apart isMark inside result
  · exact ⟨rest, parts, same⟩
  · exact absurd begins absent

theorem exists_part_of_infix_remove (marked : fragment.IsMarked isAllowed)
    (inside : first :: mark <:+: fragment.remove text) :
    ∃ part kept, part <:+ text ∧ ¬ fragment.Begins part ∧
      fragment.remove part = first :: (mark ++ kept) := by
  obtain ⟨_, _, _, _, within⟩ := marked
  obtain ⟨_, ⟨kept, rfl⟩, suffix⟩ := List.infix_iff_prefix_suffix.mp inside
  obtain ⟨part, partInside, absent, result⟩ :=
    exists_part_of_suffix_remove within.cuts (by simp) suffix
  exact ⟨part, kept, partInside, absent, result⟩

theorem isMark_of_mem : ∀ mark ∈ openings ++ closings, IsMark mark := by
  decide

theorem standsBeforeOpening_of_remove (marked : fragment.IsMarked isAllowed)
    (apart : IsApart text) (before : StandsBeforeOpening (fragment.remove text) left) :
    StandsBeforeOpening text left := by
  obtain ⟨opening, known, inside⟩ := before
  obtain ⟨part, kept, partInside, absent, result⟩ := exists_part_of_infix_remove marked inside
  obtain ⟨rest, rfl, resultRest⟩ := exists_of_remove_eq_cons_of_not_begins absent result
  have isMark := isMark_of_mem opening (List.mem_append_left closings known)
  obtain ⟨first, mark, rfl⟩ := List.exists_cons_of_ne_nil isMark.1
  obtain ⟨pieces, after, rfl, _, rfl | ⟨_, deletable⟩⟩ :=
    exists_of_remove_eq_mark marked apart isMark ((List.suffix_cons left rest).trans partInside)
      resultRest
  · refine ⟨first :: mark, known, List.IsInfix.trans ⟨[], after, ?_⟩ partInside.isInfix⟩
    simp
  · exact standsBeforeOpening_of_areDeletable deletable partInside.isInfix

theorem standsBehindClosing_of_remove (marked : fragment.IsMarked isAllowed)
    (apart : IsApart text) (behind : StandsBehindClosing (fragment.remove text) right) :
    StandsBehindClosing text right := by
  obtain ⟨closing, known, inside⟩ := behind
  have isMark := isMark_of_mem closing (List.mem_append_right openings known)
  obtain ⟨first, mark, rfl⟩ := List.exists_cons_of_ne_nil isMark.1
  rw [List.cons_append] at inside
  obtain ⟨part, kept, partInside, absent, result⟩ := exists_part_of_infix_remove marked inside
  rw [List.append_assoc] at result
  obtain ⟨rest, rfl, resultRest⟩ :=
    exists_of_remove_eq_mark_of_not_begins marked apart isMark partInside absent result
  obtain ⟨pieces, after, rfl, _, rfl | ⟨_, deletable⟩⟩ :=
    exists_of_remove_eq_cons_of_isMarked marked resultRest
  · refine ⟨first :: mark, known, List.IsInfix.trans ⟨[], after, ?_⟩ partInside.isInfix⟩
    simp
  · have between : pieces ++ right :: after <:+ text :=
      ((List.suffix_append mark _).trans (List.suffix_cons first _)).trans partInside
    exact standsBehindClosing_of_areDeletable deletable between.isInfix

theorem IsApart.remove (marked : fragment.IsMarked isAllowed) (apart : IsApart text) :
    IsApart (fragment.remove text) := by
  rintro pair isPair ⟨before, behind⟩
  exact apart pair isPair ⟨standsBeforeOpening_of_remove marked apart before,
    standsBehindClosing_of_remove marked apart behind⟩

theorem mirrors_of_isApart {opening closing : String} (marked : fragment.IsMarked isAllowed)
    (apart : IsApart text) (isOpening : IsMark opening.toList) (isClosing : IsMark closing.toList)
    (allowedMark : ∀ character ∈ opening.toList, isAllowed character = true) :
    fragment.Mirrors (enclosed isAllowed opening closing) text := by
  obtain ⟨_, _, _, _, within⟩ := id marked
  intro part inside absent begins
  obtain ⟨⟨kept, result⟩, reaches⟩ := (begins_enclosed_iff allowedMark).mp begins
  refine (begins_enclosed_iff allowedMark).mpr ⟨?_, reaches_of_remove within ?_ reaches⟩
  · obtain ⟨first, mark, same⟩ := List.exists_cons_of_ne_nil isOpening.1
    rw [same] at result isOpening ⊢
    obtain ⟨rest, rfl, _⟩ := exists_of_remove_eq_mark_of_not_begins marked apart isOpening inside
      absent result.symm
    exact ⟨rest, rfl⟩
  · intro place rest placeInside placeAbsent result
    obtain ⟨first, mark, same⟩ := List.exists_cons_of_ne_nil isClosing.1
    rw [same] at result isClosing ⊢
    obtain ⟨rest, rfl, _⟩ := exists_of_remove_eq_mark_of_not_begins marked apart isClosing
      (placeInside.trans inside) placeAbsent result
    exact reaches_zero_cons_iff.mpr (.inl ⟨rest, rfl⟩)

end Marks

section Sequence

variable {kinds : List Fragment} {text : List Char}

/-- Removing kinds one after the other leaves no fragment of any, if on texts with a property that
they keep no kind forms fragments of itself or of an earlier one. -/
theorem not_occursIn_removeEach (holds : List Char → Prop)
    (cuts : ∀ fragment ∈ kinds, fragment.Cuts)
    (keeps : ∀ fragment ∈ kinds, ∀ text, holds text → holds (fragment.remove text))
    (mirrorsSelf : ∀ fragment ∈ kinds, ∀ text, holds text → fragment.Mirrors fragment text)
    (mirrorsEarlier : kinds.Pairwise fun earlier later =>
      ∀ text, holds text → later.Mirrors earlier text)
    (held : holds text) : ∀ fragment ∈ kinds, ¬ fragment.OccursIn (removeEach kinds text) := by
  induction kinds generalizing text with
  | nil => simp
  | cons fragment kinds ih =>
      rw [List.forall_mem_cons] at cuts keeps mirrorsSelf ⊢
      obtain ⟨mirrorsFirst, mirrorsEarlier⟩ := List.pairwise_cons.mp mirrorsEarlier
      have heldAfter := keeps.1 text held
      constructor
      · intro occurs
        refine not_occursIn_remove_self cuts.1 (mirrorsSelf.1 text held) ?_
        exact occursIn_of_removeEach holds cuts.2 keeps.2 mirrorsFirst heldAfter occurs
      · exact ih cuts.2 keeps.2 mirrorsSelf.2 mirrorsEarlier heldAfter

end Sequence

end Fragment

open Fragment

def backquotedStatement : Fragment := .enclosed anywhere "\x7b%`" "`%\x7d"

def statement : Fragment := .enclosed inLine "\x7b%" "%\x7d"

def comment : Fragment := .enclosed inLine "\x7b#" "#\x7d"

theorem laterFragments_eq : fragments.drop 3 = [backquotedStatement, statement, comment] := rfl

theorem backquotedStatement_isMarked : backquotedStatement.IsMarked anywhere := by
  refine ⟨['\x7b', '%'], by decide, ['%', '\x7d'], by decide, ?_⟩
  exact (isWithin_enclosed fun character _ => anywhere_eq_true character).widen (by decide)
    (by decide) fun _ => id

theorem statement_isMarked : statement.IsMarked inLine :=
  ⟨['\x7b', '%'], by decide, ['%', '\x7d'], by decide,
    isWithin_enclosed (List.all_eq_true.mp (by decide))⟩

theorem comment_isMarked : comment.IsMarked inLine :=
  ⟨['\x7b', '#'], by decide, ['#', '\x7d'], by decide,
    isWithin_enclosed (List.all_eq_true.mp (by decide))⟩

theorem Fragment.IsMarked.widen {fragment : Fragment} (marked : fragment.IsMarked inLine) :
    fragment.IsMarked anywhere := by
  obtain ⟨opening, opens, closing, closes, within⟩ := marked
  exact ⟨opening, opens, closing, closes, within.widen List.prefix_rfl List.suffix_rfl
    fun character _ => anywhere_eq_true character⟩

/-- If no two characters of a mark can meet, one removal leaves no statement and no comment. -/
theorem not_occursIn_of_isApart {text : List Char} (apart : IsApart text) :
    ∀ fragment ∈ fragments.drop 3, ¬ fragment.OccursIn (removeEach (fragments.drop 3) text) := by
  have formsNoBackquoted {fragment : Fragment} (marked : fragment.IsMarked anywhere)
      (text : List Char) (apart : IsApart text) : fragment.Mirrors backquotedStatement text :=
    mirrors_of_isApart marked apart (by decide) (by decide)
      fun character _ => anywhere_eq_true character
  have formsNoStatement {fragment : Fragment} (marked : fragment.IsMarked inLine)
      (text : List Char) (apart : IsApart text) : fragment.Mirrors statement text :=
    mirrors_of_isApart marked apart (by decide) (by decide) (List.all_eq_true.mp (by decide))
  have formsNoComment {fragment : Fragment} (marked : fragment.IsMarked inLine)
      (text : List Char) (apart : IsApart text) : fragment.Mirrors comment text :=
    mirrors_of_isApart marked apart (by decide) (by decide) (List.all_eq_true.mp (by decide))
  have statementAnywhere := statement_isMarked.widen
  have commentAnywhere := comment_isMarked.widen
  rw [laterFragments_eq]
  refine not_occursIn_removeEach IsApart ?_ ?_ ?_ ?_ apart
  · exact fun fragment member => (laterFragments_isWithin fragment member).cuts
  · simp only [List.forall_mem_cons]
    exact ⟨fun _ => IsApart.remove backquotedStatement_isMarked,
      fun _ => IsApart.remove statement_isMarked, fun _ => IsApart.remove comment_isMarked, by simp⟩
  · simp only [List.forall_mem_cons]
    exact ⟨formsNoBackquoted backquotedStatement_isMarked, formsNoStatement statement_isMarked,
      formsNoComment comment_isMarked, by simp⟩
  · simp only [List.pairwise_cons, List.forall_mem_cons]
    exact ⟨⟨formsNoBackquoted statementAnywhere, formsNoBackquoted commentAnywhere, by simp⟩,
      ⟨formsNoStatement comment_isMarked, by simp⟩, by simp, List.Pairwise.nil⟩

theorem removeAll_eq_self_iff (text : String) :
    removeAll (removeAll text) = removeAll text ↔
      ∀ fragment ∈ fragments.drop 3, ¬ fragment.OccursIn (removeAll text).toList := by
  rw [← String.toList_inj, toList_removeAll (removeAll text), removeEach_eq_self_iff fragments_cut]
  constructor
  · exact fun absent fragment member => absent fragment (List.mem_of_mem_drop member)
  · intro absent fragment member
    rw [← List.take_append_drop 3 fragments, List.mem_append] at member
    obtain first | later := member
    · exact fun occurs => not_occursIn_expression text (occursIn_expression_of_member first occurs)
    · exact absent fragment later

end Document.Template

namespace Yaml.Options

open Document.Template Document.Template.Fragment

/-- A second template removal finds exactly the statements and comments that the first one left or
formed, and no expression. It finds nothing if, in the text without its expressions, no deletion can
bring together two characters of a mark. -/
theorem prepare_idempotent_iff (meanings : TagMeanings) (text : String) :
    let prepare := ({ meanings, removesTemplates := true } : Options).prepare
    (prepare (prepare text) = prepare text ↔
      ¬ Encloses anywhere "\x7b%`" "`%\x7d" (prepare text) ∧
      ¬ Encloses inLine "\x7b%" "%\x7d" (prepare text) ∧
      ¬ Encloses inLine "\x7b#" "#\x7d" (prepare text)) ∧
    (IsApart (removeExpressions text) → prepare (prepare text) = prepare text) := by
  intro prepare
  change (removeAll (removeAll text) = removeAll text ↔ ¬ Encloses _ _ _ (removeAll text) ∧
    ¬ Encloses _ _ _ (removeAll text) ∧ ¬ Encloses _ _ _ (removeAll text)) ∧
    (_ → removeAll (removeAll text) = removeAll text)
  rw [removeAll_eq_self_iff]
  constructor
  · rw [laterFragments_eq]
    simp only [List.forall_mem_cons, List.not_mem_nil, false_implies, implies_true, and_true]
    rw [backquotedStatement, occursIn_enclosed_iff fun character _ => anywhere_eq_true character,
      statement, occursIn_enclosed_iff (List.all_eq_true.mp (by decide)), comment,
      occursIn_enclosed_iff (List.all_eq_true.mp (by decide))]
  · intro apart
    rw [toList_removeAll_eq]
    exact not_occursIn_of_isApart apart

/-- A comment behind a brace: what its deletion brings together is a comment again. -/
theorem prepare_forms_comment :
    let prepare := ({ removesTemplates := true } : Options).prepare
    prepare "\x7b\x7b# note #\x7d# draft #\x7dport: 80" = "\x7b# draft #\x7dport: 80" ∧
      Encloses inLine "\x7b#" "#\x7d" "\x7b# draft #\x7dport: 80" ∧
      prepare "\x7b# draft #\x7dport: 80" = "port: 80" := by
  intro prepare
  have allowed : ∀ character ∈ " draft ".toList, inLine character = true :=
    List.all_eq_true.mp (by decide)
  exact ⟨by decide +kernel, ⟨"", " draft ", "port: 80", by decide, allowed, by decide⟩,
    by decide +kernel⟩

/-- A block with statements, an expression and comments, in the way templates are written. -/
theorem prepare_idempotent_iff_of_block :
    let prepare := ({ removesTemplates := true } : Options).prepare
    let text := "\x7b% if a %\x7dx: \x7b\x7b#y\x7d\x7d \x7b# 100% #\x7d\x7b% end %\x7d"
    IsApart (removeExpressions text) ∧ prepare (prepare text) = prepare text := by
  intro prepare text
  have apart : IsApart (removeExpressions text) := by decide +kernel
  exact ⟨apart, (prepare_idempotent_iff [] text).2 apart⟩

end Yaml.Options
end TolerantValidation
