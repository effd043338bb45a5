import Mathlib.Data.List.Perm.Subperm
import Mathlib.Logic.Relation
import TolerantValidation.Value.Cycle
import TolerantValidation.Proofs.Value.Arrangement
import TolerantValidation.Proofs.Value.Nesting

/-!
Circularity as a property of the graph of containers: the value leads to a container that leads back
to itself. The search finds it with nothing but the containers around each branch, so a container
that is shared, at any number of places, does not count as one that is met again.
-/

namespace TolerantValidation.Value

open Relation

def Holds (container item : Value) : Prop :=
  item ∈ container.held.map Held.value

/-- The value leads to a container that leads back to itself. -/
def IsCircular (root : Value) : Prop :=
  ∃ container, ReflTransGen Holds root container ∧ TransGen Holds container container

/-- Every path from the value, each container on it held by the one before, without repetitions and
apart from the visited ones, has fewer containers than the given number. -/
def PathsEndWithin (levels : Nat) (visited : List Value) (value : Value) : Prop :=
  ∀ below, (value :: below).IsChain Holds → (value :: below).Nodup →
    (∀ inner ∈ value :: below, inner.isContainer = true ∧ inner ∉ visited) →
    (value :: below).length < levels

/-- Corresponding values hold values that correspond to one another one by one, in any order. -/
def IsCorrespondence (same : Value → Value → Prop) : Prop :=
  ∀ left right, same left right → ∃ items : List Value,
    items.Perm (right.held.map Held.value) ∧ List.Forall₂ same (left.held.map Held.value) items

theorem mem_parts_and_isNested {value : Value} {held : Held} (member : held ∈ value.held) :
    held.value ∈ value.parts ∧ held.IsNested value := by
  cases level : value.view with
  | atom =>
      simp only [Value.held, level] at member
      exact absurd member List.not_mem_nil
  | collection kind items =>
      simp only [Value.held, level] at member
      exact ⟨held_mem_parts level member, isNested_of_view_collection level member⟩
  | mapping entries =>
      simp only [Value.held, level] at member
      obtain ⟨entry, inside, rfl⟩ := List.mem_map.mp member
      exact ⟨(entry_mem_parts level inside).2, (isNested_of_view_mapping level inside).2⟩

theorem Holds.mem_parts {container item : Value} (holds : Holds container item) :
    item ∈ container.parts := by
  obtain ⟨held, member, rfl⟩ := List.mem_map.mp holds
  exact (mem_parts_and_isNested member).1

theorem not_holds_of_not_isContainer {value : Value} (atom : ¬ value.isContainer = true)
    (item : Value) : ¬ Holds value item := by
  cases level : value.view with
  | atom => simp [Holds, held, level]
  | collection kind items => simp [isContainer, level] at atom
  | mapping entries => simp [isContainer, level] at atom

theorem descends_of_isChain {value : Value} {below : List Value}
    (chain : (value :: below).IsChain Holds) : value.Descends below := by
  induction below generalizing value with
  | nil => trivial
  | cons item below ih =>
      obtain ⟨holds, rest⟩ := List.isChain_cons_cons.mp chain
      exact ⟨holds.mem_parts, ih rest⟩

theorem enclosing_trail {value : Value} {held : Held} (nested : held.IsNested value)
    (around : List Nat) :
    enclosing (held.trail value around) held.value =
      if held.inside then value :: enclosing around value else [] := by
  obtain ⟨outside, _⟩ | ⟨inside, cells, entry, next, rfl, valueEq⟩ := nested
  · simp only [Held.trail, outside, Bool.false_eq_true, if_false, enclosing_nil]
  · simp [Held.trail, inside, valueEq, enclosing, cellNumber?]

section Search

variable {follow : Held → Option Bool} {items : List Held}

theorem exists_of_firstAnswer_true (answered : firstAnswer follow items = some true) :
    ∃ held ∈ items, follow held = some true := by
  induction items with
  | nil => cases answered
  | cons held rest ih =>
      simp only [firstAnswer] at answered
      split at answered
      · obtain ⟨later, member, found⟩ := ih answered
        exact ⟨later, List.mem_cons_of_mem _ member, found⟩
      · exact ⟨held, List.mem_cons_self, answered⟩

theorem forall_of_firstAnswer_false (answered : firstAnswer follow items = some false) :
    ∀ held ∈ items, follow held = some false := by
  induction items with
  | nil => simp
  | cons held rest ih =>
      simp only [firstAnswer] at answered
      split at answered
      · rename_i plainNo
        exact List.forall_mem_cons.mpr ⟨plainNo, ih answered⟩
      · rename_i notNo
        exact absurd answered notNo

theorem firstAnswer_isSome (answers : ∀ held ∈ items, (follow held).isSome) :
    (firstAnswer follow items).isSome := by
  induction items with
  | nil => rfl
  | cons held rest ih =>
      simp only [firstAnswer]
      split
      · exact ih fun later member => answers later (List.mem_cons_of_mem _ member)
      · exact answers held List.mem_cons_self

end Search

namespace IsCircular

variable {container item : Value}

theorem of_holds (holds : Holds container item) (circular : item.IsCircular) :
    container.IsCircular := by
  obtain ⟨looped, reached, back⟩ := circular
  exact ⟨looped, .head holds reached, back⟩

theorem exists_holds (circular : container.IsCircular) :
    ∃ item, Holds container item ∧ item.IsCircular := by
  obtain ⟨looped, reached, back⟩ := circular
  rcases ReflTransGen.cases_head reached with rfl | ⟨item, holds, rest⟩
  · obtain ⟨item, holds, rest⟩ := TransGen.head'_iff.mp back
    exact ⟨item, holds, container, rest, back⟩
  · exact ⟨item, holds, looped, rest, back⟩

end IsCircular

/-- Nothing leads on for ever from a value without cycles, so descents into it are well-founded. -/
theorem not_isCircular_of_acc {root : Value} (ends : Acc (Function.swap Holds) root) :
    ¬ root.IsCircular := by
  induction ends with
  | intro value _ ih =>
      intro circular
      obtain ⟨item, holds, itemCircular⟩ := circular.exists_holds
      exact ih item holds itemCircular

theorem isCircular_or_returns (fuel : Nat) (around : List Nat) (value : Value)
    (answered : circularWithin fuel around value = some true) :
    value.IsCircular ∨
      ∃ container ∈ enclosing around value, ReflTransGen Holds value container := by
  induction fuel generalizing around value with
  | zero =>
      unfold circularWithin at answered
      split at answered <;> cases answered
  | succ fuel ih =>
      unfold circularWithin at answered
      split at answered
      · split at answered
        · rename_i _ within
          exact .inr ⟨value, isAround_iff.mp within, .refl⟩
        · obtain ⟨held, member, found⟩ := exists_of_firstAnswer_true answered
          have holds : Holds value held.value := List.mem_map_of_mem member
          rcases ih _ _ found with circular | ⟨container, encloses, returns⟩
          · exact .inl (circular.of_holds holds)
          · rw [enclosing_trail (mem_parts_and_isNested member).2] at encloses
            split at encloses
            · -- The branch leads back to this container, or to one further out.
              rcases List.mem_cons.mp encloses with rfl | further
              · exact .inl ⟨container, .refl, .head' holds returns⟩
              · exact .inr ⟨container, further, .head holds returns⟩
            · exact absurd encloses List.not_mem_nil
      · cases answered

theorem acc_of_circularWithin_false (fuel : Nat) (around : List Nat) (value : Value)
    (answered : circularWithin fuel around value = some false) :
    Acc (Function.swap Holds) value := by
  induction fuel generalizing around value with
  | zero =>
      unfold circularWithin at answered
      split at answered
      · cases answered
      · rename_i atom
        exact ⟨_, fun item holds => absurd holds (not_holds_of_not_isContainer atom item)⟩
  | succ fuel ih =>
      unfold circularWithin at answered
      split at answered
      · split at answered
        · cases answered
        · refine ⟨_, fun item holds => ?_⟩
          obtain ⟨held, member, rfl⟩ := List.mem_map.mp holds
          exact ih _ _ (forall_of_firstAnswer_false answered held member)
      · rename_i atom
        exact ⟨_, fun item holds => absurd holds (not_holds_of_not_isContainer atom item)⟩

theorem PathsEndWithin.held {levels : Nat} {around : List Nat} {value : Value} {held : Held}
    (ends : value.PathsEndWithin (levels + 1) (enclosing around value))
    (container : value.isContainer = true) (unvisited : value ∉ enclosing around value)
    (member : held ∈ value.held) :
    held.value.PathsEndWithin levels (enclosing (held.trail value around) held.value) := by
  obtain ⟨_, nested⟩ := mem_parts_and_isNested member
  intro below chain distinct fresh
  have apart : ∀ inner ∈ held.value :: below,
      inner ≠ value ∧ inner ∉ enclosing around value := by
    intro inner inside
    have notVisited := (fresh inner inside).2
    rw [enclosing_trail nested] at notVisited
    cases insideKnot : held.inside with
    | true => simpa [insideKnot] using notVisited
    | false =>
        -- Outside the knot everything is smaller than the containers around.
        have atMost := bulk_le_of_descends (descends_of_isChain chain) inner inside
        obtain ⟨_, smaller⟩ | ⟨same, _⟩ := nested
        · constructor
          · rintro rfl
            omega
          · intro again
            have bulkEq := bulk_eq_of_mem_enclosing again
            omega
        · rw [insideKnot] at same
          cases same
  have longer : (value :: held.value :: below).length < levels + 1 := by
    apply ends (held.value :: below)
    · exact List.isChain_cons_cons.mpr ⟨List.mem_map_of_mem member, chain⟩
    · exact List.nodup_cons.mpr ⟨fun again => (apart value again).1 rfl, distinct⟩
    · intro inner inside
      rcases List.mem_cons.mp inside with rfl | later
      · exact ⟨container, unvisited⟩
      · exact ⟨(fresh inner later).1, (apart inner later).2⟩
  simpa using longer

theorem circularWithin_isSome (fuel : Nat) (around : List Nat) (value : Value)
    (enough : 0 < fuel) (ends : value.PathsEndWithin fuel (enclosing around value)) :
    (circularWithin fuel around value).isSome := by
  -- The fuel exceeds the number of containers that a path can still visit.
  induction fuel generalizing around value with
  | zero => omega
  | succ fuel ih =>
      unfold circularWithin
      split
      · rename_i container
        split
        · rfl
        · rename_i within
          have unvisited : value ∉ enclosing around value := fun again =>
            within (isAround_iff.mpr again)
          have alone : [value].length < fuel + 1 :=
            ends [] (.singleton value) (by simp) (by simpa using ⟨container, unvisited⟩)
          apply firstAnswer_isSome
          intro held member
          exact ih _ _ (by simpa using alone) (ends.held container unvisited member)
      · rfl

/-- Containers that the listed ones hold are listed too. -/
def IsClosed (nodes : List Value) : Prop :=
  ∀ container ∈ nodes, ∀ item, Holds container item → item.isContainer = true → item ∈ nodes

theorem IsClosed.append {nodes more : List Value} (closed : IsClosed nodes)
    (moreClosed : IsClosed more) : IsClosed (nodes ++ more) := by
  intro container member item holds isContainer
  rcases List.mem_append.mp member with inside | inside
  · exact List.mem_append_left _ (closed container inside item holds isContainer)
  · exact List.mem_append_right _ (moreClosed container inside item holds isContainer)

theorem IsClosed.pathsEndWithin {nodes : List Value} {levels : Nat} {root : Value}
    (closed : IsClosed nodes) (rootInside : root ∈ nodes) (few : nodes.length < levels) :
    root.PathsEndWithin levels [] := by
  intro below chain distinct containers
  have inside : root :: below ⊆ nodes := by
    clear distinct
    induction below generalizing root with
    | nil => simpa using rootInside
    | cons item below ih =>
        obtain ⟨holds, rest⟩ := List.isChain_cons_cons.mp chain
        obtain ⟨_, others⟩ := List.forall_mem_cons.mp containers
        have itemInside := closed root rootInside item holds (others item List.mem_cons_self).1
        exact List.cons_subset.mpr ⟨rootInside, ih itemInside rest others⟩
  exact Nat.lt_of_le_of_lt (List.subperm_of_subset distinct inside).length_le few

def companions : Value → List Value
  | .knot cells entry => .knot cells entry :: (List.range cells.length).map (.knot cells)
  | value => [value]

theorem mem_companions_self (value : Value) : value ∈ value.companions := by
  cases value <;> exact List.mem_cons_self

theorem bulk_eq_of_mem_companions {value inner : Value} (member : inner ∈ value.companions) :
    inner.bulk = value.bulk := by
  cases value
  case knot cells entry =>
    rcases List.mem_cons.mp member with rfl | other
    · rfl
    · obtain ⟨index, _, rfl⟩ := List.mem_map.mp other
      rfl
  all_goals rw [List.mem_singleton.mp member]

theorem mem_companions_or_smaller {value container item : Value}
    (member : container ∈ value.companions) (holds : Holds container item)
    (isContainer : item.isContainer = true) : item ∈ value.companions ∨ item.bulk < value.bulk := by
  obtain ⟨held, isHeld, rfl⟩ := List.mem_map.mp holds
  obtain ⟨_, smaller⟩ | ⟨_, cells, entry, next, rfl, valueEq⟩ := (mem_parts_and_isNested isHeld).2
  · rw [bulk_eq_of_mem_companions member] at smaller
    exact .inr smaller
  · rw [valueEq] at isContainer ⊢
    have bound : next < cells.length := by
      by_contra outside
      simp [Value.isContainer, view, List.getElem?_eq_none (Nat.not_lt.mp outside)] at isContainer
    cases value
    case knot =>
      have sameKnot : Value.knot cells next ∈ (List.range cells.length).map (.knot cells) :=
        List.mem_map_of_mem (List.mem_range.mpr bound)
      rcases List.mem_cons.mp member with same | other
      · cases same
        exact .inl (List.mem_cons_of_mem _ sameKnot)
      · obtain ⟨index, _, same⟩ := List.mem_map.mp other
        cases same
        exact .inl (List.mem_cons_of_mem _ sameKnot)
    all_goals cases List.mem_singleton.mp member

theorem exists_closed_of_forall (items : List Value)
    (each : ∀ item ∈ items, ∃ nodes, IsClosed nodes ∧ item ∈ nodes) :
    ∃ nodes, IsClosed nodes ∧ items ⊆ nodes := by
  induction items with
  | nil => exact ⟨[], by simp [IsClosed], by simp⟩
  | cons item rest ih =>
      obtain ⟨nodes, closed, inside⟩ := each item List.mem_cons_self
      obtain ⟨more, moreClosed, restInside⟩ :=
        ih fun other member => each other (List.mem_cons_of_mem _ member)
      refine ⟨nodes ++ more, closed.append moreClosed, ?_⟩
      exact List.cons_subset.mpr ⟨List.mem_append_left _ inside,
        List.subset_append_of_subset_right _ restInside⟩

/-- A value leads to finitely many containers. -/
theorem exists_closed (value : Value) : ∃ nodes, IsClosed nodes ∧ value ∈ nodes := by
  -- On the size: the containers of the knot, and what the smaller values that these hold lead to.
  induction sizeEq : value.bulk using Nat.strongRecOn generalizing value with
  | ind size ih =>
      subst sizeEq
      let smaller := value.companions.flatMap fun container =>
        (container.held.map Held.value).filter fun item => item.bulk < value.bulk
      obtain ⟨nodes, closed, inside⟩ := exists_closed_of_forall smaller (by
        intro item member
        obtain ⟨container, _, isHeld⟩ := List.mem_flatMap.mp member
        exact ih item.bulk (by simpa using (List.mem_filter.mp isHeld).2) item rfl)
      refine ⟨value.companions ++ nodes, ?_, List.mem_append_left _ (mem_companions_self value)⟩
      intro container member item holds isContainer
      rcases List.mem_append.mp member with companion | below
      · rcases mem_companions_or_smaller companion holds isContainer with again | isSmaller
        · exact List.mem_append_left _ again
        · apply List.mem_append_right
          apply inside
          exact List.mem_flatMap.mpr
            ⟨container, companion, List.mem_filter.mpr ⟨holds, by simpa using isSmaller⟩⟩
      · exact List.mem_append_right _ (closed container below item holds isContainer)

theorem isCircular_of_circularWithin {fuel : Nat} {root : Value}
    (answered : circularWithin fuel [] root = some true) : root.IsCircular := by
  rcases isCircular_or_returns fuel [] root answered with circular | ⟨container, encloses, _⟩
  · exact circular
  · rw [enclosing_nil] at encloses
    exact absurd encloses List.not_mem_nil

theorem isCircular_iff_not_acc (root : Value) :
    root.IsCircular ↔ ¬ Acc (Function.swap Holds) root := by
  constructor
  · intro circular ends
    exact not_isCircular_of_acc ends circular
  · intro endless
    -- The search decides it, with fuel for all containers that can be reached.
    obtain ⟨nodes, closed, inside⟩ := exists_closed root
    have ends := closed.pathsEndWithin inside (Nat.lt_succ_self nodes.length)
    rw [← enclosing_nil root] at ends
    obtain ⟨answer, answered⟩ := Option.isSome_iff_exists.mp
      (circularWithin_isSome _ [] root (Nat.succ_pos _) ends)
    cases answer with
    | true => exact isCircular_of_circularWithin answered
    | false => exact absurd (acc_of_circularWithin_false _ [] root answered) endless

theorem isCircular_iff_of_answered {root : Value} {answer : Bool}
    (answered : root.isCircular? = some answer) : answer = true ↔ root.IsCircular := by
  cases answer with
  | true => exact ⟨fun _ => isCircular_of_circularWithin answered, fun _ => rfl⟩
  | false =>
      have notCircular := not_isCircular_of_acc (acc_of_circularWithin_false _ [] root answered)
      exact ⟨fun yes => absurd yes Bool.false_ne_true, fun circular => absurd circular notCircular⟩

namespace IsCorrespondence

variable {same : Value → Value → Prop} {left right : Value}

theorem exists_left (correspondence : IsCorrespondence same) (related : same left right)
    {item : Value} (holds : Holds right item) : ∃ other, Holds left other ∧ same other item := by
  obtain ⟨items, permuted, inPlace⟩ := correspondence left right related
  exact exists_of_forall₂ inPlace.flip (permuted.mem_iff.mpr holds)

theorem exists_right (correspondence : IsCorrespondence same) (related : same left right)
    {item : Value} (holds : Holds left item) : ∃ other, Holds right other ∧ same item other := by
  obtain ⟨items, permuted, inPlace⟩ := correspondence left right related
  obtain ⟨other, inside, otherSame⟩ := exists_of_forall₂ inPlace holds
  exact ⟨other, permuted.mem_iff.mp inside, otherSame⟩

theorem acc_right (correspondence : IsCorrespondence same) (related : same left right)
    (ends : Acc (Function.swap Holds) left) : Acc (Function.swap Holds) right := by
  induction ends generalizing right with
  | intro value _ ih =>
      refine ⟨_, fun item holds => ?_⟩
      obtain ⟨other, otherHolds, otherSame⟩ := correspondence.exists_left related holds
      exact ih other otherHolds otherSame

theorem acc_left (correspondence : IsCorrespondence same) (related : same left right)
    (ends : Acc (Function.swap Holds) right) : Acc (Function.swap Holds) left := by
  induction ends generalizing left with
  | intro value _ ih =>
      refine ⟨_, fun item holds => ?_⟩
      obtain ⟨other, otherHolds, otherSame⟩ := correspondence.exists_right related holds
      exact ih other otherHolds otherSame

theorem isCircular_iff (correspondence : IsCorrespondence same) (related : same left right) :
    left.IsCircular ↔ right.IsCircular := by
  rw [isCircular_iff_not_acc, isCircular_iff_not_acc]
  exact not_congr ⟨correspondence.acc_right related, correspondence.acc_left related⟩

theorem exists_path_left (correspondence : IsCorrespondence same) {below : List Value}
    (chain : (right :: below).IsChain Holds) (related : same left right) :
    ∃ path, (left :: path).IsChain Holds ∧ List.Forall₂ same (left :: path) (right :: below) := by
  induction below generalizing left right with
  | nil => exact ⟨[], .singleton left, .cons related .nil⟩
  | cons item below ih =>
      obtain ⟨holds, rest⟩ := List.isChain_cons_cons.mp chain
      obtain ⟨other, otherHolds, otherSame⟩ := correspondence.exists_left related holds
      obtain ⟨path, pathChain, inPlace⟩ := ih rest otherSame
      exact ⟨other :: path, List.isChain_cons_cons.mpr ⟨otherHolds, pathChain⟩,
        .cons related inPlace⟩

theorem nodup_left (unique : ∀ value first second, same value first → same value second →
      first = second) {items others : List Value} (inPlace : List.Forall₂ same items others)
    (distinct : others.Nodup) : items.Nodup := by
  induction inPlace with
  | nil => exact List.nodup_nil
  | cons related rest ih =>
      obtain ⟨fresh, othersDistinct⟩ := List.nodup_cons.mp distinct
      refine List.nodup_cons.mpr ⟨fun again => ?_, ih othersDistinct⟩
      obtain ⟨other, inside, otherSame⟩ := exists_of_forall₂ rest again
      rw [unique _ _ _ related otherSame] at fresh
      exact fresh inside

/-- Where every value corresponds to one at most, paths on the right are no longer than those on the
left. -/
theorem pathsEndWithin_right (correspondence : IsCorrespondence same)
    (unique : ∀ value first second, same value first → same value second → first = second)
    (containers : ∀ value other, same value other → other.isContainer = true →
      value.isContainer = true)
    (related : same left right) {levels : Nat} (ends : left.PathsEndWithin levels []) :
    right.PathsEndWithin levels [] := by
  intro below chain distinct fresh
  obtain ⟨path, pathChain, inPlace⟩ := correspondence.exists_path_left chain related
  rw [← inPlace.length_eq]
  apply ends path pathChain (nodup_left unique inPlace distinct)
  intro value member
  obtain ⟨other, inside, otherSame⟩ := exists_of_forall₂ inPlace member
  exact ⟨containers value other otherSame (fresh other inside).1, List.not_mem_nil⟩

end IsCorrespondence

end TolerantValidation.Value
