import Mathlib.Data.List.Forall2
import TolerantValidation.Value.Graph
import TolerantValidation.Proofs.Value.Circularity

/-!
Graphs of containers read as values. Containers that lead to no cycle become trees, the others stay
in a knot; either way each holds what corresponds to what it held in the graph.
-/

namespace TolerantValidation

def Cell.links : Cell Value → List (Link Value)
  | .collection _ links => links
  | .mapping entries => entries.map Prod.snd

namespace Value

/-- Every tree that is known is the tree of its cell, all links of which lead to known trees or out
of the graph. -/
def AreTreesOf (cells : Array (Cell Value)) (trees : Array (Option Value)) : Prop :=
  ∀ (index : Nat) (tree : Value), trees[index]? = some (some tree) →
    ∃ cell, cells[index]? = some cell ∧ treeOfCell? (resolveCell trees cell) = some tree

theorem mapM_eq_some_iff {Item Result : Type} {read : Item → Option Result} {item : Result → Item}
    (inverse : ∀ given result, read given = some result ↔ given = item result)
    {givens : List Item} {results : List Result} :
    givens.mapM read = some results ↔ givens = results.map item := by
  induction givens generalizing results with
  | nil => cases results <;> simp
  | cons given rest ih =>
      simp only [List.mapM_cons, Option.bind_eq_bind, Option.bind_eq_some_iff, inverse, ih]
      cases results with
      | nil => simp
      | cons result results => simp

theorem treeOfCell?_eq_some_iff {cell : Cell Value} {tree : Value} :
    treeOfCell? cell = some tree ↔
      (∃ kind items, cell = .collection kind (items.map .value) ∧ tree = .collection kind items) ∨
      ∃ pairs : List (Value × Value),
        cell = .mapping (pairs.map fun pair => (pair.1, .value pair.2)) ∧
        tree = .mapping pairs := by
  cases cell with
  | collection kind links =>
      have outside : ∀ link item, outside? link = some item ↔ link = .value item := by
        intro link item
        cases link <;> simp [outside?]
      simp only [treeOfCell?, Option.map_eq_some_iff, mapM_eq_some_iff outside]
      constructor
      · rintro ⟨items, rfl, rfl⟩
        exact .inl ⟨kind, items, rfl, rfl⟩
      · rintro (⟨_, items, same, rfl⟩ | ⟨_, same, _⟩)
        · cases same
          exact ⟨items, rfl, rfl⟩
        · cases same
  | mapping entries =>
      have outside : ∀ (entry : Value × Link Value) (pair : Value × Value),
          (outside? entry.2).map (fun value => (entry.1, value)) = some pair ↔
            entry = (pair.1, .value pair.2) := by
        rintro ⟨key, link⟩ ⟨pairKey, item⟩
        cases link <;> simp [outside?]
      simp only [treeOfCell?, Option.map_eq_some_iff, mapM_eq_some_iff outside]
      constructor
      · rintro ⟨pairs, rfl, rfl⟩
        exact .inr ⟨pairs, rfl, rfl⟩
      · rintro (⟨_, _, same, _⟩ | ⟨pairs, same, rfl⟩)
        · cases same
        · cases same
          exact ⟨pairs, rfl, rfl⟩

theorem links_of_treeOfCell? {cell : Cell Value} {tree : Value}
    (isTree : treeOfCell? cell = some tree) :
    cell.links = (tree.held.map Held.value).map .value := by
  rcases treeOfCell?_eq_some_iff.mp isTree with ⟨kind, items, rfl, rfl⟩ | ⟨pairs, rfl, rfl⟩
  · simp [Cell.links, held, view, Function.comp_def]
  · simp [Cell.links, held, view, Function.comp_def]

theorem links_resolveCell (trees : Array (Option Value)) (cell : Cell Value) :
    (resolveCell trees cell).links = cell.links.map (resolve trees) := by
  cases cell <;> simp [resolveCell, Cell.links, Function.comp_def]

theorem resolveCell_congr {trees more : Array (Option Value)} {cell : Cell Value}
    (same : ∀ link ∈ cell.links, resolve more link = resolve trees link) :
    resolveCell more cell = resolveCell trees cell := by
  cases cell with
  | collection kind links =>
      simp only [resolveCell, Cell.collection.injEq, true_and]
      exact List.map_congr_left same
  | mapping entries =>
      simp only [resolveCell, Cell.mapping.injEq]
      apply List.map_congr_left
      intro entry member
      rw [same entry.2 (List.mem_map_of_mem member)]

theorem resolve_of_tree {trees : Array (Option Value)} {index : Nat} {tree : Value}
    (known : trees[index]? = some (some tree)) : resolve trees (.cell index) = .value tree := by
  simp only [resolve, known]

theorem resolve_cell_cases (trees : Array (Option Value)) (index : Nat) :
    (∃ tree, trees[index]? = some (some tree) ∧ resolve trees (.cell index) = .value tree) ∨
      resolve trees (.cell index) = .cell index := by
  unfold resolve
  simp only
  split
  · rename_i tree known
    exact .inl ⟨tree, known, rfl⟩
  · exact .inr rfl

theorem resolve_eq_value_of_extends {trees more : Array (Option Value)}
    (extend : ∀ (index : Nat) (tree : Value), trees[index]? = some (some tree) →
      more[index]? = some (some tree))
    {link : Link Value} {value : Value} (resolved : resolve trees link = .value value) :
    resolve more link = .value value := by
  cases link with
  | value outside => exact resolved
  | cell index =>
      rcases resolve_cell_cases trees index with ⟨tree, known, isTree⟩ | isCell
      · rw [isTree] at resolved
        cases resolved
        exact resolve_of_tree (extend index _ known)
      · rw [isCell] at resolved
        cases resolved

theorem treeOfCell?_of_extends {trees more : Array (Option Value)}
    (extend : ∀ (index : Nat) (tree : Value), trees[index]? = some (some tree) →
      more[index]? = some (some tree))
    {cell : Cell Value} {tree : Value} (isTree : treeOfCell? (resolveCell trees cell) = some tree) :
    treeOfCell? (resolveCell more cell) = some tree := by
  have linksEq := links_of_treeOfCell? isTree
  rw [links_resolveCell] at linksEq
  rw [resolveCell_congr, isTree]
  intro link member
  have resolved : resolve trees link ∈ (tree.held.map Held.value).map Link.value := by
    rw [← linksEq]
    exact List.mem_map_of_mem member
  obtain ⟨value, _, valueEq⟩ := List.mem_map.mp resolved
  rw [← valueEq]
  exact resolve_eq_value_of_extends extend valueEq.symm

theorem AreTreesOf.resolvePass {cells : Array (Cell Value)} {trees : Array (Option Value)}
    (areTrees : AreTreesOf cells trees) : AreTreesOf cells (resolvePass cells trees) := by
  unfold Value.resolvePass
  induction List.range cells.size with
  | nil => exact areTrees
  | cons index rest ih =>
      rw [List.foldr_cons]
      generalize rest.foldr _ trees = known at ih ⊢
      split
      · rename_i cell unknown found
        have extend : ∀ (other : Nat) (tree : Value), known[other]? = some (some tree) →
            (known.set! index (treeOfCell? (resolveCell known cell)))[other]? =
              some (some tree) := by
          intro other tree isKnown
          have different : index ≠ other := by
            rintro rfl
            rw [unknown] at isKnown
            cases isKnown
          simp [different, isKnown]
        intro other tree isKnown
        by_cases same : index = other
        · subst same
          refine ⟨cell, found, treeOfCell?_of_extends extend ?_⟩
          obtain ⟨bound, _⟩ := Array.getElem?_eq_some_iff.mp unknown
          simpa [Array.getElem?_setIfInBounds, bound] using isKnown
        · have before : known[other]? = some (some tree) := by
            simpa [Array.getElem?_setIfInBounds, same] using isKnown
          obtain ⟨otherCell, otherFound, isTree⟩ := ih other tree before
          exact ⟨otherCell, otherFound, treeOfCell?_of_extends extend isTree⟩
      · exact ih

theorem AreTreesOf.resolveAll {cells : Array (Cell Value)} {trees : Array (Option Value)}
    (areTrees : AreTreesOf cells trees) (fuel : Nat) :
    AreTreesOf cells (resolveAll cells fuel trees) := by
  induction fuel generalizing trees with
  | zero => exact areTrees
  | succ fuel ih =>
      simp only [Value.resolveAll]
      split
      · exact areTrees
      · exact ih areTrees.resolvePass

theorem held_knot (cells : List (Cell Value)) (entry : Nat) :
    (knot cells entry).held = (cells[entry]?.elim [] Cell.links).map (follow cells) := by
  cases found : cells[entry]? with
  | none => simp [held, view, found]
  | some cell => cases cell <;> simp [held, view, found, Cell.view, Cell.links, Function.comp_def]

theorem isContainer_knot (cells : List (Cell Value)) (entry : Nat) :
    (knot cells entry).isContainer = cells[entry]?.isSome := by
  cases found : cells[entry]? with
  | none => simp [isContainer, view, found]
  | some cell => cases cell <;> simp [isContainer, view, found, Cell.view]

theorem held_resolve {cells : Array (Cell Value)} {trees : Array (Option Value)}
    (areTrees : AreTreesOf cells trees) (index : Nat) :
    let resolved := cells.toList.map (resolveCell trees)
    (follow resolved (resolve trees (.cell index))).value.held.map Held.value =
      (cells[index]?.elim [] Cell.links).map fun link =>
        (follow resolved (resolve trees link)).value := by
  intro resolved
  rcases resolve_cell_cases trees index with ⟨tree, known, isTree⟩ | isCell
  · obtain ⟨cell, found, treeEq⟩ := areTrees index tree known
    have linksEq := links_of_treeOfCell? treeEq
    rw [links_resolveCell] at linksEq
    calc (follow resolved (resolve trees (.cell index))).value.held.map Held.value
        = ((tree.held.map Held.value).map Link.value).map
            fun link => (follow resolved link).value := by
          simp [isTree, follow, Function.comp_def]
      _ = _ := by
          rw [← linksEq, found]
          simp [Function.comp_def]
  · rw [isCell]
    show (knot resolved index).held.map Held.value = _
    rw [held_knot]
    cases found : cells[index]? with
    | none => simp [resolved, found]
    | some cell => simp [resolved, found, links_resolveCell, Function.comp_def]

theorem isClosed_knots {cells : List (Cell Value)}
    (atoms : ∀ cell ∈ cells, ∀ value, .value value ∈ cell.links → value.isContainer = false) :
    IsClosed ((List.range cells.length).map (knot cells)) := by
  intro container member item holds isContainer
  obtain ⟨index, _, rfl⟩ := List.mem_map.mp member
  rw [Holds, held_knot, List.map_map] at holds
  obtain ⟨link, isLink, rfl⟩ := List.mem_map.mp holds
  cases found : cells[index]? with
  | none => simp [found] at isLink
  | some cell =>
      cases link with
      | value outside =>
          have atom := atoms cell (List.mem_of_getElem? found) outside
            (by simpa [found] using isLink)
          exact absurd (isContainer.symm.trans atom) Bool.true_eq_false.mp
      | cell next =>
          change (knot cells next).isContainer = true at isContainer
          rw [isContainer_knot] at isContainer
          exact List.mem_map_of_mem (List.mem_range.mpr (by simpa using isContainer))

/-- What the containers of a graph are read as. What stands outside the graph stays as it is. -/
inductive IsReadAs (cells : Array (Cell Value)) (trees : Array (Option Value)) :
    Value → Value → Prop
  | cell (index : Nat) : IsReadAs cells trees (knot cells.toList index)
      (follow (cells.toList.map (resolveCell trees)) (resolve trees (.cell index))).value
  | outside {value : Value} : value.bulk < 1 + sizeOf cells.toList →
      IsReadAs cells trees value value

namespace IsReadAs

variable {cells : Array (Cell Value)} {trees : Array (Option Value)}

theorem unique {value first second : Value} (left : IsReadAs cells trees value first)
    (right : IsReadAs cells trees value second) : first = second := by
  generalize sameEq : value = other at right
  cases left with
  | cell index =>
      cases right with
      | cell other =>
          cases sameEq
          rfl
      | outside smaller =>
          subst sameEq
          simp at smaller
  | outside smaller =>
      cases right with
      | cell other =>
          subst sameEq
          simp at smaller
      | outside _ => exact sameEq

theorem isContainer (areTrees : AreTreesOf cells trees) {value other : Value}
    (read : IsReadAs cells trees value other) (container : other.isContainer = true) :
    value.isContainer = true := by
  cases read with
  | outside smaller => exact container
  | cell index =>
      rw [isContainer_knot, Array.getElem?_toList]
      rcases resolve_cell_cases trees index with ⟨tree, known, _⟩ | isCell
      · obtain ⟨cell, found, _⟩ := areTrees index tree known
        simp [found]
      · rw [isCell] at container
        change (knot _ index).isContainer = true at container
        simpa [isContainer_knot] using container

theorem ofLink {cell : Cell Value} {index : Nat} (found : cells[index]? = some cell)
    {link : Link Value} (member : link ∈ cell.links) :
    IsReadAs cells trees (follow cells.toList link).value
      (follow (cells.toList.map (resolveCell trees)) (resolve trees link)).value := by
  cases link with
  | cell next => exact .cell next
  | value outside =>
      have isHeld : follow cells.toList (.value outside) ∈ (knot cells.toList index).held := by
        rw [held_knot, Array.getElem?_toList, found]
        exact List.mem_map_of_mem member
      obtain ⟨_, smaller⟩ | ⟨inside, _⟩ := (mem_parts_and_isNested isHeld).2
      · exact .outside smaller
      · cases inside

end IsReadAs

theorem isCorrespondence_isReadAs {cells : Array (Cell Value)} {trees : Array (Option Value)}
    (areTrees : AreTreesOf cells trees) : IsCorrespondence (IsReadAs cells trees) := by
  rintro left right (index | smaller)
  · refine ⟨_, .refl _, ?_⟩
    rw [held_resolve areTrees index, held_knot, Array.getElem?_toList, List.map_map,
      List.forall₂_map_left_iff, List.forall₂_map_right_iff]
    apply List.forall₂_same.mpr
    intro link member
    cases found : cells[index]? with
    | none => simp [found] at member
    | some cell => exact .ofLink found (by simpa [found] using member)
  · refine ⟨_, .refl _, List.forall₂_same.mpr fun item holds => .outside ?_⟩
    exact Nat.lt_of_le_of_lt (bulk_le_of_mem_parts (Holds.mem_parts holds)) smaller

theorem exists_isReadAs_ofGraph (cells : Array (Cell Value)) (index : Nat) :
    ∃ trees, AreTreesOf cells trees ∧
      IsReadAs cells trees (knot cells.toList index) (ofGraph cells (.cell index)) := by
  have unresolved : AreTreesOf cells (Array.replicate cells.size none) := by
    intro index tree known
    simp [Array.getElem?_replicate] at known
  refine ⟨_, unresolved.resolveAll cells.size, ?_⟩
  have read : IsReadAs cells (resolveAll cells cells.size (Array.replicate cells.size none))
      (knot cells.toList index) _ := .cell index
  unfold ofGraph
  simp only
  split
  · rename_i value isTree
    rwa [isTree] at read
  · rename_i next isCell
    rwa [isCell] at read

/-- With paths within the depth limit the search answers, and its answer is yes exactly if some
container that can be reached leads back to itself. It does not depend on the order of what
containers hold, and it is the same for a graph of containers and the value that it is read as. -/
theorem isCircular?_exact :
    (∀ root : Value, root.PathsEndWithin circularLimit [] →
      ∃ answer, root.isCircular? = some answer) ∧
    (∀ (root : Value) (answer : Bool), root.isCircular? = some answer →
      (answer = true ↔ root.IsCircular)) ∧
    (∀ same : Value → Value → Prop, IsCorrespondence same →
      ∀ (left right : Value) (leftAnswer rightAnswer : Bool), same left right →
        left.isCircular? = some leftAnswer → right.isCircular? = some rightAnswer →
        leftAnswer = rightAnswer) ∧
    (∀ (cells : Array (Cell Value)) (entry : Link Value),
      (follow cells.toList entry).value.PathsEndWithin circularLimit [] →
      ∃ answer, (ofGraph cells entry).isCircular? = some answer ∧
        (answer = true ↔ (follow cells.toList entry).value.IsCircular)) := by
  have answers : ∀ root : Value, root.PathsEndWithin circularLimit [] →
      ∃ answer, root.isCircular? = some answer := fun root ends =>
    Option.isSome_iff_exists.mp (circularWithin_isSome circularLimit [] root (by decide)
      (by rwa [enclosing_nil]))
  refine ⟨answers, fun root answer => isCircular_iff_of_answered, ?_, ?_⟩
  · intro same correspondence left right leftAnswer rightAnswer related leftAnswered rightAnswered
    rw [Bool.eq_iff_iff, isCircular_iff_of_answered leftAnswered,
      isCircular_iff_of_answered rightAnswered]
    exact correspondence.isCircular_iff related
  · intro cells entry ends
    cases entry with
    | value outside =>
        obtain ⟨answer, answered⟩ := answers outside ends
        exact ⟨answer, answered, isCircular_iff_of_answered answered⟩
    | cell index =>
        obtain ⟨trees, areTrees, read⟩ := exists_isReadAs_ofGraph cells index
        have correspondence := isCorrespondence_isReadAs areTrees
        obtain ⟨answer, answered⟩ := answers (ofGraph cells (.cell index))
          (correspondence.pathsEndWithin_right (fun _ _ _ => IsReadAs.unique)
            (fun _ _ => IsReadAs.isContainer areTrees) read ends)
        refine ⟨answer, answered, ?_⟩
        rw [isCircular_iff_of_answered answered]
        exact (correspondence.isCircular_iff read).symm

def sharing : Array (Cell Value) :=
  #[.collection .list [.cell 1, .value (.int 7), .cell 1], .mapping [(.text "a", .cell 2)],
    .collection .tuple []]

def looping : Array (Cell Value) :=
  #[.collection .list [.value (.int 7), .cell 1], .mapping [(.text "a", .cell 2)],
    .collection .list [.cell 1]]

theorem isCircular?_exact_of_small_graphs :
    let shared := knot sharing.toList 0
    let looped := knot looping.toList 0
    (shared.PathsEndWithin circularLimit [] ∧ (∃ answer, shared.isCircular? = some answer) ∧
      ¬ shared.IsCircular) ∧
    (looped.PathsEndWithin circularLimit [] ∧ looped.IsCircular ∧
      ∃ answer, (ofGraph looping (.cell 0)).isCircular? = some answer ∧
        (answer = true ↔ looped.IsCircular)) ∧
    (Value.list [.null, .selfHolding]).isCircular? = some true := by
  intro shared looped
  obtain ⟨answers, exactly, anyOrder, ofGraphs⟩ := isCircular?_exact
  have sharedEnds : shared.PathsEndWithin circularLimit [] :=
    (isClosed_knots (by simp [sharing, Cell.links, isContainer, view])).pathsEndWithin
      (List.mem_map_of_mem (by simp [sharing])) (by decide)
  have loopedEnds : looped.PathsEndWithin circularLimit [] :=
    (isClosed_knots (by simp [looping, Cell.links, isContainer, view])).pathsEndWithin
      (List.mem_map_of_mem (by simp [looping])) (by decide)
  refine ⟨⟨sharedEnds, answers shared sharedEnds, ?_⟩, ⟨loopedEnds, ?_, ?_⟩, ?_⟩
  · intro circular
    exact absurd ((exactly shared false rfl).mpr circular) Bool.false_ne_true
  · exact (exactly looped true rfl).mp rfl
  · exact ofGraphs looping (.cell 0) loopedEnds
  · -- The items in the other order make the list circular as well.
    let swapped (left right : Value) : Prop :=
      (left = .list [.selfHolding, .null] ∧ right = .list [.null, .selfHolding]) ∨ left = right
    have correspondence : IsCorrespondence swapped := by
      rintro left right (⟨rfl, rfl⟩ | rfl)
      · exact ⟨_, .swap null selfHolding [], List.forall₂_same.mpr fun _ _ => .inr rfl⟩
      · exact ⟨_, .refl _, List.forall₂_same.mpr fun _ _ => .inr rfl⟩
    have closed : IsClosed [.list [.null, .selfHolding], .selfHolding] := by
      simp [IsClosed, Holds, held, view, selfHolding, follow, Cell.view, isContainer]
    obtain ⟨answer, answered⟩ := answers _ (closed.pathsEndWithin List.mem_cons_self (by decide))
    rw [answered, anyOrder swapped correspondence (.list [.selfHolding, .null]) _ true answer
      (.inl ⟨rfl, rfl⟩) rfl answered]

end Value
end TolerantValidation
