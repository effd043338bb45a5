import Mathlib.Data.List.Chain
import TolerantValidation.Document.Template

/-!
What the removal of a kind of fragments does to a text. It deletes pieces between the marks of that
kind, and what it keeps comes from places at which no fragment begins. So a fragment of the result
is one of the text, unless a deleted piece stood between two characters of a mark.
-/

namespace TolerantValidation.Document.Template

/-- The mark stands in the text behind allowed characters, at least so many. -/
def Reaches (isAllowed : Char → Bool) (mark : List Char) (least : Nat) (text : List Char) : Prop :=
  ∃ inner rest, least ≤ inner.length ∧ (∀ character ∈ inner, isAllowed character = true) ∧
    text = inner ++ (mark ++ rest)

section Marks

variable {isAllowed : Char → Bool} {opening closing mark : List Char} {first : Char}
variable {before text rest : List Char} {least : Nat}

theorem reaches_zero_cons_iff :
    Reaches isAllowed mark 0 (first :: text) ↔
      mark <+: first :: text ∨ isAllowed first = true ∧ Reaches isAllowed mark 0 text := by
  constructor
  · rintro ⟨inner, rest, _, allowed, parts⟩
    cases inner with
    | nil => exact .inl ⟨rest, parts.symm⟩
    | cons head inner =>
        obtain ⟨rfl, tail⟩ := List.cons.inj parts
        rw [List.forall_mem_cons] at allowed
        exact .inr ⟨allowed.1, inner, rest, Nat.zero_le _, allowed.2, tail⟩
  · rintro (⟨rest, parts⟩ | ⟨allowedFirst, inner, rest, _, allowed, rfl⟩)
    · exact ⟨[], rest, Nat.zero_le _, by simp, parts.symm⟩
    · exact ⟨first :: inner, rest, Nat.zero_le _, List.forall_mem_cons.mpr ⟨allowedFirst, allowed⟩,
        rfl⟩

theorem reaches_succ_cons_iff :
    Reaches isAllowed mark (least + 1) (first :: text) ↔
      isAllowed first = true ∧ Reaches isAllowed mark least text := by
  constructor
  · rintro ⟨inner, rest, long, allowed, parts⟩
    cases inner with
    | nil => simp at long
    | cons head inner =>
        obtain ⟨rfl, tail⟩ := List.cons.inj parts
        rw [List.forall_mem_cons] at allowed
        exact ⟨allowed.1, inner, rest, by simpa using long, allowed.2, tail⟩
  · rintro ⟨allowedFirst, inner, rest, long, allowed, rfl⟩
    exact ⟨first :: inner, rest, by simpa using long,
      List.forall_mem_cons.mpr ⟨allowedFirst, allowed⟩, rfl⟩

theorem Reaches.behind (reaches : Reaches isAllowed mark least text)
    (allowed : ∀ character ∈ before, isAllowed character = true) :
    Reaches isAllowed mark least (before ++ text) := by
  obtain ⟨inner, rest, long, allowedInner, rfl⟩ := reaches
  refine ⟨before ++ inner, rest, ?_, ?_, by simp⟩
  · rw [List.length_append]
    omega
  · rw [List.forall_mem_append]
    exact ⟨allowed, allowedInner⟩

theorem reaches_append_iff (allowed : ∀ character ∈ before, isAllowed character = true) :
    Reaches isAllowed mark (before.length + least) (before ++ text) ↔
      Reaches isAllowed mark least text := by
  induction before with
  | nil => simp
  | cons first before ih =>
      rw [List.forall_mem_cons] at allowed
      rw [List.length_cons, Nat.add_right_comm, List.cons_append, reaches_succ_cons_iff,
        ih allowed.2]
      simp [allowed.1]

theorem exists_afterMark?_iff :
    (∃ rest, afterMark? isAllowed mark text = some rest) ↔ Reaches isAllowed mark 0 text := by
  induction text with
  | nil => cases mark <;> simp [afterMark?, Reaches]
  | cons first text ih =>
      rw [reaches_zero_cons_iff, ← ih, ← List.isPrefixOf_iff_prefix, afterMark?]
      by_cases found : mark.isPrefixOf (first :: text) = true
      · simp [found]
      · by_cases allowed : isAllowed first = true <;> simp [found, allowed]

theorem exists_inner_of_afterMark? (found : afterMark? isAllowed mark text = some rest) :
    ∃ inner, (∀ character ∈ inner, isAllowed character = true) ∧
      text = inner ++ (mark ++ rest) := by
  induction text with
  | nil =>
      rw [afterMark?] at found
      split at found
      next empty =>
        refine ⟨[], by simp, ?_⟩
        simpa [List.isEmpty_iff.mp empty] using found
      next => simp at found
  | cons first text ih =>
      rw [afterMark?] at found
      split at found
      next here =>
        obtain ⟨after, parts⟩ := List.isPrefixOf_iff_prefix.mp here
        rw [← parts, List.drop_left, Option.some.injEq] at found
        exact ⟨[], by simp, by rw [← found, parts, List.nil_append]⟩
      next =>
        split at found
        next allowed =>
          obtain ⟨inner, allowedInner, parts⟩ := ih found
          exact ⟨first :: inner, List.forall_mem_cons.mpr ⟨allowed, allowedInner⟩,
            congrArg (first :: ·) parts⟩
        next => simp at found

theorem afterEnclosed?_append :
    afterEnclosed? isAllowed opening closing (opening ++ text) =
      match text with
      | first :: rest => if isAllowed first then afterMark? isAllowed closing rest else none
      | [] => none := by
  have here : opening.isPrefixOf (opening ++ text) = true :=
    List.isPrefixOf_iff_prefix.mpr (List.prefix_append opening text)
  cases text <;> simp only [afterEnclosed?, here, if_true, List.drop_left]

theorem prefix_of_afterEnclosed?
    (found : afterEnclosed? isAllowed opening closing text = some rest) : opening <+: text := by
  rw [afterEnclosed?] at found
  split at found
  next here => exact List.isPrefixOf_iff_prefix.mp here
  next => simp at found

theorem exists_afterEnclosed?_iff
    (allowedMark : ∀ character ∈ opening, isAllowed character = true) :
    (∃ rest, afterEnclosed? isAllowed opening closing text = some rest) ↔
      opening <+: text ∧ Reaches isAllowed closing (opening.length + 1) text := by
  constructor
  · rintro ⟨rest, found⟩
    obtain ⟨text, rfl⟩ := prefix_of_afterEnclosed? found
    refine ⟨List.prefix_append opening text, (reaches_append_iff allowedMark).mpr ?_⟩
    rw [afterEnclosed?_append] at found
    cases text with
    | nil => simp at found
    | cons first text =>
        dsimp only at found
        split at found
        next allowed =>
          exact reaches_succ_cons_iff.mpr ⟨allowed, exists_afterMark?_iff.mp ⟨rest, found⟩⟩
        next => simp at found
  · rintro ⟨⟨text, rfl⟩, reaches⟩
    rw [reaches_append_iff allowedMark] at reaches
    rw [afterEnclosed?_append]
    cases text with
    | nil =>
        obtain ⟨inner, rest, long, _, parts⟩ := reaches
        have empty := congrArg List.length parts
        simp only [List.length_nil, List.length_append] at empty
        omega
    | cons first text =>
        obtain ⟨allowed, reaches⟩ := reaches_succ_cons_iff.mp reaches
        simpa only [allowed, if_true] using exists_afterMark?_iff.mpr reaches

theorem exists_inner_of_afterEnclosed?
    (found : afterEnclosed? isAllowed opening closing text = some rest) :
    ∃ inner, (∀ character ∈ inner, isAllowed character = true) ∧
      text = opening ++ (inner ++ (closing ++ rest)) := by
  obtain ⟨text, rfl⟩ := prefix_of_afterEnclosed? found
  rw [afterEnclosed?_append] at found
  cases text with
  | nil => simp at found
  | cons first text =>
      dsimp only at found
      split at found
      next allowed =>
        obtain ⟨inner, allowedInner, parts⟩ := exists_inner_of_afterMark? found
        exact ⟨first :: inner, List.forall_mem_cons.mpr ⟨allowed, allowedInner⟩, by rw [parts]; rfl⟩
      next => simp at found

end Marks

namespace Fragment

/-- A fragment begins at the first character of the text. -/
def Begins (fragment : Fragment) (text : List Char) : Prop :=
  ∃ rest, fragment.after? text = some rest

/-- A fragment begins at some place of the text. -/
def OccursIn (fragment : Fragment) (text : List Char) : Prop :=
  ∃ part, part <:+ text ∧ fragment.Begins part

/-- What follows a fragment is the end of the text that the fragment begins. -/
def Cuts (fragment : Fragment) : Prop :=
  ∀ ⦃text rest⦄, fragment.after? text = some rest → rest <:+ text

/-- Every fragment consists of allowed characters between the two marks. -/
def IsWithin (fragment : Fragment) (isAllowed : Char → Bool) (opening closing : List Char) : Prop :=
  ∀ ⦃text rest⦄, fragment.after? text = some rest →
    ∃ piece, text = piece ++ rest ∧ opening <+: piece ∧ closing <:+ piece ∧
      ∀ character ∈ piece, isAllowed character = true

section Removal

variable {fragment kind : Fragment} {isAllowed : Char → Bool} {opening closing mark : List Char}
variable {first second : Char} {text rest kept : List Char} {least : Nat}

theorem not_begins_iff : ¬ fragment.Begins text ↔ fragment.after? text = none := by
  rw [Begins, ← Option.isSome_iff_exists]
  simp

theorem not_begins_nil : ¬ fragment.Begins [] := by
  rintro ⟨rest, found⟩
  exact absurd (fragment.shorter found) (Nat.not_lt_zero _)

theorem remove_nil : fragment.remove [] = [] := by
  rw [remove]

theorem remove_of_begins (found : fragment.after? (first :: text) = some rest) :
    fragment.remove (first :: text) = fragment.remove rest := by
  rw [remove]
  split
  next same =>
    rw [found] at same
    rw [Option.some.inj same]
  next same =>
    rw [found] at same
    simp at same

theorem remove_of_not_begins (absent : fragment.after? (first :: text) = none) :
    fragment.remove (first :: text) = first :: fragment.remove text := by
  rw [remove]
  split
  next same =>
    rw [absent] at same
    simp at same
  next => rfl

theorem IsWithin.cuts (within : fragment.IsWithin isAllowed opening closing) : fragment.Cuts := by
  intro text rest found
  obtain ⟨piece, rfl, _⟩ := within found
  exact List.suffix_append piece rest

theorem remove_sublist (cuts : fragment.Cuts) (text : List Char) :
    (fragment.remove text).Sublist text := by
  induction text using remove.induct fragment with
  | case1 => rw [remove_nil]
  | case2 first text rest found ih =>
      rw [remove_of_begins found]
      exact ih.trans (cuts found).sublist
  | case3 first text absent ih =>
      rw [remove_of_not_begins absent]
      exact ih.cons_cons first

theorem length_remove_le (fragment : Fragment) (text : List Char) :
    (fragment.remove text).length ≤ text.length := by
  induction text using remove.induct fragment with
  | case1 => rw [remove_nil]
  | case2 first text rest found ih =>
      have shorter := fragment.shorter found
      rw [remove_of_begins found]
      omega
  | case3 first text absent ih =>
      rw [remove_of_not_begins absent, List.length_cons, List.length_cons]
      omega

theorem remove_eq_self_iff : fragment.remove text = text ↔ ¬ fragment.OccursIn text := by
  induction text using remove.induct fragment with
  | case1 =>
      rw [remove_nil]
      refine iff_of_true rfl ?_
      rintro ⟨part, inside, begins⟩
      rw [List.suffix_nil.mp inside] at begins
      exact not_begins_nil begins
  | case2 first text rest found ih =>
      refine iff_of_false ?_ (not_not_intro ⟨first :: text, List.suffix_rfl, rest, found⟩)
      intro same
      have lengths := congrArg List.length same
      have shorter := fragment.shorter found
      have kept := length_remove_le fragment rest
      rw [remove_of_begins found] at lengths
      omega
  | case3 first text absent ih =>
      rw [remove_of_not_begins absent, List.cons_inj_right, ih, not_iff_not]
      constructor
      · rintro ⟨part, inside, begins⟩
        exact ⟨part, inside.trans (List.suffix_cons first text), begins⟩
      · rintro ⟨part, inside, begins⟩
        obtain rfl | inside := List.suffix_cons_iff.mp inside
        · exact absurd begins (not_begins_iff.mpr absent)
        · exact ⟨part, inside, begins⟩

/-- Each place of the result comes from a place of the text at which no fragment begins. -/
theorem exists_part_of_suffix_remove (cuts : fragment.Cuts) (nonempty : kept ≠ [])
    (inside : kept <:+ fragment.remove text) :
    ∃ part, part <:+ text ∧ ¬ fragment.Begins part ∧ fragment.remove part = kept := by
  induction text using remove.induct fragment with
  | case1 =>
      rw [remove_nil, List.suffix_nil] at inside
      exact absurd inside nonempty
  | case2 first text rest found ih =>
      rw [remove_of_begins found] at inside
      obtain ⟨part, partInside, absent, same⟩ := ih inside
      exact ⟨part, partInside.trans (cuts found), absent, same⟩
  | case3 first text absent ih =>
      rw [remove_of_not_begins absent] at inside
      obtain rfl | inside := List.suffix_cons_iff.mp inside
      · exact ⟨first :: text, List.suffix_rfl, not_begins_iff.mpr absent,
          remove_of_not_begins absent⟩
      · obtain ⟨part, partInside, partAbsent, same⟩ := ih inside
        exact ⟨part, partInside.trans (List.suffix_cons first text), partAbsent, same⟩

theorem exists_of_remove_eq_cons (within : fragment.IsWithin isAllowed opening closing)
    (result : fragment.remove text = first :: kept) :
    ∃ skipped rest, text = skipped ++ first :: rest ∧ fragment.remove rest = kept ∧
      (skipped = [] ∨ fragment.Begins text ∧ opening <+: skipped ∧ closing <:+ skipped) := by
  induction text using remove.induct fragment with
  | case1 =>
      rw [remove_nil] at result
      simp at result
  | case2 head text after found ih =>
      rw [remove_of_begins found] at result
      obtain ⟨skipped, rest, rfl, same, marks⟩ := ih result
      obtain ⟨piece, parts, opens, closes, _⟩ := within found
      refine ⟨piece ++ skipped, rest, by rw [parts, List.append_assoc], same,
        .inr ⟨⟨_, found⟩, opens.trans (List.prefix_append piece skipped), ?_⟩⟩
      · obtain rfl | ⟨_, _, closes⟩ := marks
        · rwa [List.append_nil]
        · exact closes.trans (List.suffix_append piece skipped)
  | case3 head text absent ih =>
      rw [remove_of_not_begins absent] at result
      obtain ⟨rfl, same⟩ := List.cons.inj result
      exact ⟨[], text, rfl, same, .inl rfl⟩

theorem exists_of_remove_eq_cons_of_not_begins (absent : ¬ fragment.Begins text)
    (result : fragment.remove text = first :: kept) :
    ∃ rest, text = first :: rest ∧ fragment.remove rest = kept := by
  cases text with
  | nil =>
      rw [remove_nil] at result
      simp at result
  | cons head rest =>
      rw [remove_of_not_begins (not_begins_iff.mp absent)] at result
      obtain ⟨rfl, same⟩ := List.cons.inj result
      exact ⟨rest, rfl, same⟩

/-- Between the first two characters of the result, nothing or pieces of the text are deleted. -/
theorem exists_of_remove_eq_cons_cons (within : fragment.IsWithin isAllowed opening closing)
    (absent : ¬ fragment.Begins text) (result : fragment.remove text = first :: second :: kept) :
    ∃ skipped rest, text = first :: (skipped ++ second :: rest) ∧
      (skipped = [] ∨ opening <+: skipped ∧ closing <:+ skipped) := by
  obtain ⟨behind, rfl, resultBehind⟩ := exists_of_remove_eq_cons_of_not_begins absent result
  obtain ⟨skipped, rest, rfl, _, marks⟩ := exists_of_remove_eq_cons within resultBehind
  exact ⟨skipped, rest, rfl, marks.imp_right And.right⟩

theorem reaches_of_remove (within : fragment.IsWithin isAllowed opening closing)
    (mirrored : ∀ part rest, part <:+ text → ¬ fragment.Begins part →
      fragment.remove part = mark ++ rest → Reaches isAllowed mark 0 part)
    (reaches : Reaches isAllowed mark least (fragment.remove text)) :
    Reaches isAllowed mark least text := by
  induction text using remove.induct fragment generalizing least with
  | case1 => rwa [remove_nil] at reaches
  | case2 first text after found ih =>
      rw [remove_of_begins found] at reaches
      obtain ⟨piece, parts, _, _, allowed⟩ := within found
      rw [parts]
      -- A deleted piece has allowed characters only, so it may stand before the mark.
      refine (ih ?_ reaches).behind allowed
      exact fun part rest inside => mirrored part rest (inside.trans (within.cuts found))
  | case3 first text absent ih =>
      have mirroredRest := fun part rest (inside : part <:+ text) =>
        mirrored part rest (inside.trans (List.suffix_cons first text))
      have removed := remove_of_not_begins absent
      rw [removed] at reaches
      cases least with
      | zero =>
          obtain ⟨rest, here⟩ | ⟨allowed, later⟩ := reaches_zero_cons_iff.mp reaches
          · exact mirrored _ rest List.suffix_rfl (not_begins_iff.mpr absent)
              (removed.trans here.symm)
          · exact reaches_zero_cons_iff.mpr (.inr ⟨allowed, ih mirroredRest later⟩)
      | succ least =>
          obtain ⟨allowed, later⟩ := reaches_succ_cons_iff.mp reaches
          exact reaches_succ_cons_iff.mpr ⟨allowed, ih mirroredRest later⟩

/-- A fragment of the kind that begins a part of the result begins the part of the text that it
comes from. -/
def Mirrors (fragment kind : Fragment) (text : List Char) : Prop :=
  ∀ part, part <:+ text → ¬ fragment.Begins part → kind.Begins (fragment.remove part) →
    kind.Begins part

theorem exists_mirrored_part (cuts : fragment.Cuts) (mirrors : fragment.Mirrors kind text)
    (occurs : kind.OccursIn (fragment.remove text)) :
    ∃ part, part <:+ text ∧ ¬ fragment.Begins part ∧ kind.Begins part := by
  obtain ⟨kept, inside, begins⟩ := occurs
  have nonempty : kept ≠ [] := by
    rintro rfl
    exact not_begins_nil begins
  obtain ⟨part, partInside, absent, rfl⟩ := exists_part_of_suffix_remove cuts nonempty inside
  exact ⟨part, partInside, absent, mirrors part partInside absent begins⟩

theorem occursIn_of_remove (cuts : fragment.Cuts) (mirrors : fragment.Mirrors kind text)
    (occurs : kind.OccursIn (fragment.remove text)) : kind.OccursIn text := by
  obtain ⟨part, inside, _, begins⟩ := exists_mirrored_part cuts mirrors occurs
  exact ⟨part, inside, begins⟩

theorem not_occursIn_remove_self (cuts : fragment.Cuts) (mirrors : fragment.Mirrors fragment text) :
    ¬ fragment.OccursIn (fragment.remove text) := by
  intro occurs
  obtain ⟨part, _, absent, begins⟩ := exists_mirrored_part cuts mirrors occurs
  exact absent begins

end Removal

end Fragment
end TolerantValidation.Document.Template
