import TolerantValidation.Value.Display

/-!
How values nest: what a value consists of, the descents into it, and how far these can go. A
descent goes to ever smaller values, except from a container to another one of its knot.
-/

namespace TolerantValidation.Value

def parts (value : Value) : List Value :=
  match value.view with
  | .collection _ items => items.map Held.value
  | .mapping entries => entries.flatMap fun entry => [entry.1, entry.2.value]
  | .atom =>
    match value with
    | .record _ fields => fields.map Prod.snd
    | .issue failed => failed.path
    | .failure failed => failed.issues.map .issue
    | _ => []

/-- The second value is the first one or stands in it, at any depth. -/
inductive Occurs (whole : Value) : Value → Prop
  | self : Occurs whole whole
  | part {value part} : Occurs whole value → part ∈ value.parts → Occurs whole part

/-- Values each of which is a part of the one before it. -/
def Descends : Value → List Value → Prop
  | _, [] => True
  | value, part :: below => part ∈ value.parts ∧ Descends part below

/-- Nothing in the value leads back to itself. -/
def IsAcyclic (value : Value) : Prop :=
  ∀ inner, value.Occurs inner → ∀ part ∈ inner.parts, ¬ part.Occurs inner

/-- Every descent through distinct values that avoids the visited ones has fewer levels than the
given number. -/
def EndsWithin (levels : Nat) (visited : List Value) (value : Value) : Prop :=
  ∀ below, value.Descends below → (value :: below).Nodup →
    (∀ inner ∈ value :: below, inner ∉ visited) → (value :: below).length < levels

/-- The value nests less deep than computations follow it. -/
def IsShallow (value : Value) : Prop :=
  value.EndsWithin writingLimit []

/-- Every whole number in the value has at most the digits that are written. -/
def HasShortIntegers (value : Value) : Prop :=
  ∀ whole, value.Occurs (.int whole) → whole.natAbs < Nat.pow 10 digitLimit

def selfHolding : Value := .knot [.collection .list [.cell 0]] 0

theorem Occurs.trans {outer middle inner : Value} (first : outer.Occurs middle)
    (second : middle.Occurs inner) : outer.Occurs inner := by
  induction second with
  | self => exact first
  | part _ member ih => exact ih.part member

theorem Occurs.eq_or_inside {whole inner : Value} (occurs : whole.Occurs inner) :
    inner = whole ∨ ∃ part ∈ whole.parts, part.Occurs inner := by
  induction occurs with
  | self => exact .inl rfl
  | part _ member ih =>
      rcases ih with rfl | ⟨outer, outerMember, occurs⟩
      · exact .inr ⟨_, member, .self⟩
      · exact .inr ⟨outer, outerMember, occurs.part member⟩

theorem Occurs.eq_of_closed {whole inner : Value} (occurs : whole.Occurs inner)
    (closed : ∀ part ∈ whole.parts, part = whole) : inner = whole := by
  induction occurs with
  | self => rfl
  | part _ member same =>
      rw [same] at member
      exact closed _ member

/-- The size of a value. All containers of a knot are as large as the knot. -/
noncomputable def bulk : Value → Nat
  | .knot cells _ => 1 + sizeOf cells
  | value => sizeOf value

@[simp] theorem bulk_knot (cells : List (Cell Value)) (entry : Nat) :
    (knot cells entry).bulk = 1 + sizeOf cells := rfl

@[simp] theorem bulk_collection (kind : CollectionKind) (items : List Value) :
    (collection kind items).bulk = 1 + sizeOf kind + sizeOf items := by
  simp only [bulk, collection.sizeOf_spec]

@[simp] theorem bulk_mapping (entries : List (Value × Value)) :
    (mapping entries).bulk = 1 + sizeOf entries := by
  simp only [bulk, mapping.sizeOf_spec]

@[simp] theorem bulk_record (name : String) (fields : List (String × Value)) :
    (record name fields).bulk = 1 + sizeOf name + sizeOf fields := by
  simp only [bulk, record.sizeOf_spec]

@[simp] theorem bulk_issue (failed : Issue) : (issue failed).bulk = 1 + sizeOf failed := by
  simp only [bulk, issue.sizeOf_spec]

@[simp] theorem bulk_failure (failed : Failure) : (failure failed).bulk = 1 + sizeOf failed := by
  simp only [bulk, failure.sizeOf_spec]

theorem bulk_le_sizeOf (value : Value) : value.bulk ≤ sizeOf value := by
  cases value
  case knot cells entry => simp only [bulk_knot, knot.sizeOf_spec]; omega
  all_goals exact Nat.le_refl _

/-- A container holds a smaller value, or a container of the same knot. -/
def Held.IsNested (container : Value) (held : Held) : Prop :=
  (held.inside = false ∧ held.value.bulk < container.bulk) ∨
    (held.inside = true ∧ ∃ cells entry next,
      container = .knot cells entry ∧ held.value = .knot cells next)

theorem follow_isNested {cells : List (Cell Value)} {entry : Nat} (link : Link Value)
    (smaller : sizeOf link < sizeOf cells) : (follow cells link).IsNested (.knot cells entry) := by
  cases link with
  | cell next => exact .inr ⟨rfl, cells, entry, next, rfl, rfl⟩
  | value outside =>
      refine .inl ⟨rfl, ?_⟩
      have bound := bulk_le_sizeOf outside
      simp only [Link.value.sizeOf_spec] at smaller
      simp only [follow, bulk_knot]
      omega

theorem held_mem_parts {value : Value} {kind : CollectionKind} {items : List Held}
    (level : value.view = .collection kind items) {held : Held} (member : held ∈ items) :
    held.value ∈ value.parts := by
  simp only [parts, level]
  exact List.mem_map_of_mem member

theorem entry_mem_parts {value : Value} {entries : List (Value × Held)}
    (level : value.view = .mapping entries) {entry : Value × Held} (member : entry ∈ entries) :
    entry.1 ∈ value.parts ∧ entry.2.value ∈ value.parts := by
  simp only [parts, level]
  exact ⟨List.mem_flatMap.mpr ⟨entry, member, by simp⟩,
    List.mem_flatMap.mpr ⟨entry, member, by simp⟩⟩

theorem mem_parts_of_entries? {value : Value} {entries : List (Value × Value)}
    (mapping : value.entries? = some entries) {entry : Value × Value} (member : entry ∈ entries) :
    entry.1 ∈ value.parts ∧ entry.2 ∈ value.parts := by
  unfold entries? at mapping
  split at mapping
  · rename_i level
    cases mapping
    obtain ⟨held, inside, rfl⟩ := List.mem_map.mp member
    exact entry_mem_parts level inside
  · cases mapping

theorem isNested_of_view_collection {value : Value} {kind : CollectionKind} {items : List Held}
    (level : value.view = .collection kind items) {held : Held} (member : held ∈ items) :
    held.IsNested value := by
  cases value <;> simp only [view, reduceCtorEq, View.collection.injEq] at level
  case collection itemKind values =>
    obtain ⟨rfl, rfl⟩ := level
    obtain ⟨item, inside, rfl⟩ := List.mem_map.mp member
    have smaller := List.sizeOf_lt_of_mem inside
    have bound := bulk_le_sizeOf item
    refine .inl ⟨rfl, ?_⟩
    simp only [bulk_collection]
    omega
  case knot cells entry =>
    split at level
    · rename_i cell found
      cases cell with
      | mapping entries => simp [Cell.view] at level
      | collection cellKind links =>
          simp only [Cell.view, View.collection.injEq] at level
          obtain ⟨rfl, rfl⟩ := level
          obtain ⟨link, inside, rfl⟩ := List.mem_map.mp member
          apply follow_isNested
          have linkSmaller := List.sizeOf_lt_of_mem inside
          have cellSmaller := List.sizeOf_lt_of_mem (List.mem_of_getElem? found)
          simp only [Cell.collection.sizeOf_spec] at cellSmaller
          omega
    · cases level

theorem isNested_of_view_mapping {value : Value} {entries : List (Value × Held)}
    (level : value.view = .mapping entries) {entry : Value × Held} (member : entry ∈ entries) :
    entry.1.bulk < value.bulk ∧ entry.2.IsNested value := by
  cases value <;> simp only [view, reduceCtorEq, View.mapping.injEq] at level
  case mapping pairs =>
    subst level
    obtain ⟨⟨key, item⟩, inside, rfl⟩ := List.mem_map.mp member
    have smaller := List.sizeOf_lt_of_mem inside
    have keyBound := bulk_le_sizeOf key
    have itemBound := bulk_le_sizeOf item
    simp only [Prod.mk.sizeOf_spec] at smaller
    refine ⟨?_, .inl ⟨rfl, ?_⟩⟩
    · simp only [bulk_mapping]
      omega
    · simp only [bulk_mapping]
      omega
  case knot cells position =>
    split at level
    · rename_i cell found
      cases cell with
      | collection kind links => simp [Cell.view] at level
      | mapping links =>
          simp only [Cell.view, View.mapping.injEq] at level
          subst level
          obtain ⟨⟨key, link⟩, inside, rfl⟩ := List.mem_map.mp member
          have linkSmaller := List.sizeOf_lt_of_mem inside
          have cellSmaller := List.sizeOf_lt_of_mem (List.mem_of_getElem? found)
          have keyBound := bulk_le_sizeOf key
          simp only [Prod.mk.sizeOf_spec] at linkSmaller
          simp only [Cell.mapping.sizeOf_spec] at cellSmaller
          constructor
          · simp only [bulk_knot]
            omega
          · exact follow_isNested link (by omega)
    · cases level


theorem bulk_lt_of_view_atom {value part : Value} (level : value.view = .atom)
    (member : part ∈ value.parts) : part.bulk < value.bulk := by
  have bound := bulk_le_sizeOf part
  cases value <;> simp only [parts, level, List.not_mem_nil] at member
  case record name fields =>
    obtain ⟨field, inside, rfl⟩ := List.mem_map.mp member
    have smaller := List.sizeOf_lt_of_mem inside
    rcases field with ⟨fieldName, field⟩
    simp only [Prod.mk.sizeOf_spec] at smaller
    simp only [bulk_record] at bound ⊢
    omega
  case issue failed =>
    rcases failed with ⟨code, message, path, fatal⟩
    have smaller : sizeOf part < sizeOf path := List.sizeOf_lt_of_mem member
    simp only [bulk_issue, IssueAt.mk.sizeOf_spec]
    omega
  case failure failed =>
    rcases failed with ⟨issues, message⟩
    obtain ⟨issue, inside, rfl⟩ := List.mem_map.mp member
    have smaller : sizeOf issue < sizeOf issues := List.sizeOf_lt_of_mem inside
    simp only [bulk_failure, bulk_issue, FailureAt.mk.sizeOf_spec]
    omega

theorem Held.IsNested.bulk_le {container : Value} {held : Held} (nested : held.IsNested container) :
    held.value.bulk ≤ container.bulk := by
  obtain ⟨_, smaller⟩ | ⟨_, cells, entry, next, rfl, valueEq⟩ := nested
  · exact Nat.le_of_lt smaller
  · rw [valueEq]
    exact Nat.le_refl _

theorem bulk_le_of_mem_parts {value part : Value} (member : part ∈ value.parts) :
    part.bulk ≤ value.bulk := by
  cases level : value.view with
  | atom => exact Nat.le_of_lt (bulk_lt_of_view_atom level member)
  | collection kind items =>
      simp only [parts, level] at member
      obtain ⟨held, inside, rfl⟩ := List.mem_map.mp member
      exact (isNested_of_view_collection level inside).bulk_le
  | mapping entries =>
      simp only [parts, level] at member
      obtain ⟨entry, inside, isPart⟩ := List.mem_flatMap.mp member
      obtain ⟨keySmaller, nested⟩ := isNested_of_view_mapping level inside
      simp only [List.mem_cons, List.not_mem_nil, or_false] at isPart
      rcases isPart with rfl | rfl
      · exact Nat.le_of_lt keySmaller
      · exact nested.bulk_le

theorem bulk_le_of_descends {value : Value} {below : List Value} (descends : value.Descends below) :
    ∀ inner ∈ value :: below, inner.bulk ≤ value.bulk := by
  induction below generalizing value with
  | nil => simp
  | cons part below ih =>
      obtain ⟨member, descends⟩ := descends
      intro inner inside
      rcases List.mem_cons.mp inside with rfl | later
      · exact Nat.le_refl _
      · exact Nat.le_trans (ih descends inner later) (bulk_le_of_mem_parts member)

namespace EndsWithin

variable {levels : Nat} {visited : List Value} {value part : Value}

theorem one_lt (ends : value.EndsWithin levels visited) (unvisited : value ∉ visited) :
    1 < levels := by
  simpa using ends [] trivial (by simp) (by simpa using unvisited)

theorem mono {more : Nat} (ends : value.EndsWithin levels visited) (atMost : levels ≤ more) :
    value.EndsWithin more visited :=
  fun below descends distinct unvisited =>
    Nat.lt_of_lt_of_le (ends below descends distinct unvisited) atMost

theorem step (ends : value.EndsWithin (levels + 1) visited) (unvisited : value ∉ visited)
    (member : part ∈ value.parts) : part.EndsWithin levels (value :: visited) := by
  intro below descends distinct avoids
  have fresh : value ∉ part :: below := fun inside => avoids value inside List.mem_cons_self
  have isFree := List.nodup_cons.mpr ⟨fresh, distinct⟩
  have shorter := ends (part :: below) ⟨member, descends⟩ isFree (by
    intro inner inside
    rcases List.mem_cons.mp inside with rfl | later
    · exact unvisited
    · exact fun again => avoids inner later (List.mem_cons_of_mem _ again))
  simpa using shorter

theorem forget (ends : value.EndsWithin levels visited)
    (larger : ∀ inner ∈ visited, value.bulk < inner.bulk) : value.EndsWithin levels [] := by
  -- A descent never gets to larger values, so it cannot come back to the visited ones.
  intro below descends distinct _
  apply ends below descends distinct
  intro inner inside again
  have atMost := bulk_le_of_descends descends inner inside
  have bound := larger inner again
  omega

theorem smallerPart (ends : value.EndsWithin (levels + 1) []) (member : part ∈ value.parts)
    (smaller : part.bulk < value.bulk) : part.EndsWithin levels [] :=
  (ends.step List.not_mem_nil member).forget (by simpa using smaller)

theorem inherit (ends : value.EndsWithin levels []) (member : part ∈ value.parts)
    (smaller : part.bulk < value.bulk) : part.EndsWithin levels [] := by
  cases levels with
  | zero => exact absurd (ends.one_lt List.not_mem_nil) (by omega)
  | succ levels => exact (ends.smallerPart member smaller).mono (Nat.le_succ levels)

end EndsWithin

/-- The containers of its knot that a value is within. -/
def enclosing (around : List Nat) : Value → List Value
  | .knot cells _ => around.map (.knot cells)
  | _ => []

theorem isAround_iff {around : List Nat} {value : Value} :
    isAround around value = true ↔ value ∈ enclosing around value := by
  cases value <;> simp [isAround, cellNumber?, enclosing]

theorem bulk_eq_of_mem_enclosing {around : List Nat} {value inner : Value}
    (member : inner ∈ enclosing around value) : inner.bulk = value.bulk := by
  cases value <;> simp only [enclosing, List.not_mem_nil, List.mem_map] at member
  obtain ⟨entry, _, rfl⟩ := member
  rfl

theorem enclosing_nil (value : Value) : enclosing [] value = [] := by
  cases value <;> rfl

theorem EndsWithin.outside {levels : Nat} {around : List Nat} {value part : Value}
    (ends : value.EndsWithin (levels + 1) (enclosing around value))
    (unvisited : value ∉ enclosing around value) (member : part ∈ value.parts)
    (smaller : part.bulk < value.bulk) : part.EndsWithin levels [] := by
  apply (ends.step unvisited member).forget
  intro inner within
  rcases List.mem_cons.mp within with rfl | later
  · exact smaller
  · rwa [bulk_eq_of_mem_enclosing later]

theorem EndsWithin.held {levels : Nat} {around : List Nat} {value : Value} {held : Held}
    (ends : value.EndsWithin (levels + 1) (enclosing around value))
    (unvisited : value ∉ enclosing around value) (member : held.value ∈ value.parts)
    (nested : held.IsNested value) :
    held.value.EndsWithin levels (enclosing (held.trail value around) held.value) := by
  obtain ⟨outside, smaller⟩ | ⟨inside, cells, entry, next, rfl, valueEq⟩ := nested
  · simp only [Held.trail, outside, Bool.false_eq_true, if_false, enclosing_nil]
    exact ends.outside unvisited member smaller
  · have reached := ends.step unvisited member
    rw [valueEq] at reached ⊢
    simpa [Held.trail, inside, enclosing, cellNumber?] using reached

end TolerantValidation.Value
