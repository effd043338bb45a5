import TolerantValidation.Proofs.Value.Arrangement
import TolerantValidation.Proofs.Value.Comparison
import TolerantValidation.Proofs.Value.Scalars

/-!
Agreement of values, level by level: scalars that stand for the same, lists and tuples in order,
sets and mappings in any order. It comes in two strengths, with the same type at every level and
without. The comparison of values decides the weaker one.
-/

namespace TolerantValidation

def CollectionKind.isOrdered : CollectionKind → Bool
  | .list | .tuple => true
  | .set | .frozenSet => false

/-- Kinds of collections that may agree: of one kind or, when types do not matter, both sets. -/
def CollectionKind.Meets (typed : Bool) (kind other : CollectionKind) : Prop :=
  kind = other ∨ (typed = false ∧ kind.isOrdered = false ∧ other.isOrdered = false)

namespace CollectionKind.Meets

variable {typed : Bool} {kind other third : CollectionKind}

theorem isOrdered_eq (meets : kind.Meets typed other) : kind.isOrdered = other.isOrdered := by
  rcases meets with rfl | ⟨_, unordered, otherUnordered⟩
  · rfl
  · rw [unordered, otherUnordered]

theorem symm (meets : kind.Meets typed other) : other.Meets typed kind :=
  meets.imp Eq.symm (And.imp_right And.symm)

theorem trans (first : kind.Meets typed other) (second : other.Meets typed third) :
    kind.Meets typed third := by
  rcases first with rfl | ⟨loose, unordered, otherUnordered⟩
  · exact second
  · exact .inr ⟨loose, unordered, second.isOrdered_eq ▸ otherUnordered⟩

theorem eq (meets : kind.Meets true other) : kind = other :=
  meets.resolve_right fun loose => absurd loose.1 (by decide)

end CollectionKind.Meets

theorem CollectionKind.typeName_injective {kind other : CollectionKind}
    (same : kind.typeName = other.typeName) : kind = other := by
  cases kind <;> cases other <;> first | rfl | exact absurd same (by decide)

theorem CollectionKind.isOrdered_eq_false_iff {kind : CollectionKind} :
    kind.isOrdered = false ↔ kind = .set ∨ kind = .frozenSet := by
  cases kind <;> simp [isOrdered]

namespace Value

def items? (value : Value) : Option (CollectionKind × List Value) :=
  match value.view with
  | .collection kind items => some (kind, items.map Held.value)
  | _ => none

def View.IsLike : View → View → Prop
  | .atom, .atom => True
  | .collection .., .collection .. => True
  | .mapping _, .mapping _ => True
  | _, _ => False

/-- The values agree at every level, with the same types there if types matter. -/
inductive Agrees (typed : Bool) : Value → Value → Prop
  | scalar {left right : Value} {meaning : Scalar} : left.scalar? = some meaning →
      right.scalar? = some meaning → (typed = true → left.typeName = right.typeName) →
      Agrees typed left right
  | collection {left right : Value} {kind otherKind : CollectionKind} {items others : List Value}
      (arranged : List Value) : left.items? = some (kind, items) →
      right.items? = some (otherKind, others) → kind.Meets typed otherKind →
      arranged.Perm others → (kind.isOrdered = true → arranged = others) →
      items.length = arranged.length →
      (∀ pair ∈ items.zip arranged, Agrees typed pair.1 pair.2) → Agrees typed left right
  | mapping {left right : Value} {entries others : List (Value × Value)}
      (arranged : List (Value × Value)) : left.entries? = some entries →
      right.entries? = some others → arranged.Perm others → entries.length = arranged.length →
      (∀ pair ∈ entries.zip arranged, Agrees typed pair.1.1 pair.2.1) →
      (∀ pair ∈ entries.zip arranged, Agrees typed pair.1.2 pair.2.2) → Agrees typed left right

section Levels

variable {value : Value}

theorem view_of_scalar? {meaning : Scalar} (isScalar : value.scalar? = some meaning) :
    value.view = .atom := by
  cases value <;> first | rfl | cases isScalar

theorem view_of_items? {kind : CollectionKind} {items : List Value}
    (isItems : value.items? = some (kind, items)) :
    ∃ held, value.view = .collection kind held ∧ items = held.map Held.value := by
  unfold items? at isItems
  split at isItems
  · rename_i level
    cases isItems
    exact ⟨_, level, rfl⟩
  · cases isItems

theorem view_of_entries? {entries : List (Value × Value)}
    (isEntries : value.entries? = some entries) : ∃ held, value.view = .mapping held := by
  unfold entries? at isEntries
  split at isEntries
  · rename_i level
    exact ⟨_, level⟩
  · cases isEntries

theorem scalar?_of_view (noAtom : value.view ≠ .atom) : value.scalar? = none := by
  cases stands : value.scalar? with
  | none => rfl
  | some meaning => exact absurd (view_of_scalar? stands) noAtom

theorem scalar?_of_items? {kind : CollectionKind} {items : List Value}
    (isItems : value.items? = some (kind, items)) : value.scalar? = none := by
  obtain ⟨held, level, _⟩ := view_of_items? isItems
  exact scalar?_of_view (by simp [level])

theorem scalar?_of_entries? {entries : List (Value × Value)}
    (isEntries : value.entries? = some entries) : value.scalar? = none := by
  obtain ⟨held, level⟩ := view_of_entries? isEntries
  exact scalar?_of_view (by simp [level])

theorem entries?_of_items? {kind : CollectionKind} {items : List Value}
    (isItems : value.items? = some (kind, items)) : value.entries? = none := by
  obtain ⟨held, level, _⟩ := view_of_items? isItems
  simp only [entries?, level]

theorem parts_of_items? {kind : CollectionKind} {items : List Value}
    (isItems : value.items? = some (kind, items)) : value.parts = items := by
  obtain ⟨held, level, rfl⟩ := view_of_items? isItems
  simp only [parts, level]

theorem typeName_of_items? {kind : CollectionKind} {items : List Value}
    (isItems : value.items? = some (kind, items)) : value.typeName = kind.typeName := by
  obtain ⟨held, level, _⟩ := view_of_items? isItems
  simp only [typeName, level]

theorem typeName_of_entries? {entries : List (Value × Value)}
    (isEntries : value.entries? = some entries) : value.typeName = "dict" := by
  obtain ⟨held, level⟩ := view_of_entries? isEntries
  simp only [typeName, level]

end Levels

namespace Agrees

variable {typed : Bool} {left right third : Value}

theorem isLike (agrees : Agrees typed left right) : left.view.IsLike right.view := by
  cases agrees with
  | scalar isFirst isSecond => simp [view_of_scalar? isFirst, view_of_scalar? isSecond, View.IsLike]
  | collection _ isItems isOthers =>
      obtain ⟨held, level, _⟩ := view_of_items? isItems
      obtain ⟨otherHeld, otherLevel, _⟩ := view_of_items? isOthers
      simp [level, otherLevel, View.IsLike]
  | mapping _ isEntries isOthers =>
      obtain ⟨held, level⟩ := view_of_entries? isEntries
      obtain ⟨otherHeld, otherLevel⟩ := view_of_entries? isOthers
      simp [level, otherLevel, View.IsLike]

theorem exists_items (agrees : Agrees typed left right) {kind : CollectionKind} {items : List Value}
    (isItems : left.items? = some (kind, items)) :
    ∃ otherKind others, right.items? = some (otherKind, others) ∧ kind.Meets typed otherKind ∧
      Arranged kind.isOrdered (Agrees typed) items others := by
  cases agrees with
  | scalar isFirst => simp [scalar?_of_items? isItems] at isFirst
  | collection arranged isSame isOthers meets perm inPlace length each =>
      rw [isItems] at isSame
      cases isSame
      exact ⟨_, _, isOthers, meets, .of_zip perm inPlace length each⟩
  | mapping _ isEntries => simp [entries?_of_items? isItems] at isEntries

theorem of_items {kind otherKind : CollectionKind} {items others : List Value}
    (isItems : left.items? = some (kind, items))
    (isOthers : right.items? = some (otherKind, others)) (meets : kind.Meets typed otherKind)
    (arranges : Arranged kind.isOrdered (Agrees typed) items others) : Agrees typed left right := by
  obtain ⟨arranged, perm, inPlace, length, each⟩ := arranges.exists_zip
  exact .collection arranged isItems isOthers meets perm inPlace length each

def OnEntries (typed : Bool) (entry other : Value × Value) : Prop :=
  Agrees typed entry.1 other.1 ∧ Agrees typed entry.2 other.2

theorem exists_entries (agrees : Agrees typed left right) {entries : List (Value × Value)}
    (isEntries : left.entries? = some entries) :
    ∃ others, right.entries? = some others ∧ Arranged false (OnEntries typed) entries others := by
  cases agrees with
  | scalar isFirst => simp [scalar?_of_entries? isEntries] at isFirst
  | collection _ isItems => simp [entries?_of_items? isItems] at isEntries
  | mapping arranged isSame isOthers perm length keys values =>
      rw [isEntries] at isSame
      cases isSame
      exact ⟨_, isOthers, .of_zip perm nofun length fun pair member =>
        ⟨keys pair member, values pair member⟩⟩

theorem of_entries {entries others : List (Value × Value)}
    (isEntries : left.entries? = some entries) (isOthers : right.entries? = some others)
    (arranges : Arranged false (OnEntries typed) entries others) : Agrees typed left right := by
  obtain ⟨arranged, perm, _, length, each⟩ := arranges.exists_zip
  exact .mapping arranged isEntries isOthers perm length (fun pair member => (each pair member).1)
    fun pair member => (each pair member).2

theorem exists_scalar (agrees : Agrees typed left right) {meaning : Scalar}
    (stands : left.scalar? = some meaning) : right.scalar? = some meaning := by
  cases agrees with
  | scalar isFirst isSecond => exact isSecond.trans (isFirst.symm.trans stands)
  | collection _ isItems => simp [scalar?_of_items? isItems] at stands
  | mapping _ isEntries => simp [scalar?_of_entries? isEntries] at stands

theorem typeName_eq (agrees : Agrees typed left right) (strict : typed = true) :
    left.typeName = right.typeName := by
  cases agrees with
  | scalar _ _ types => exact types strict
  | collection _ isItems isOthers meets =>
      rw [typeName_of_items? isItems, typeName_of_items? isOthers]
      rcases meets with rfl | ⟨loose, _⟩
      · rfl
      · exact absurd (strict.symm.trans loose) (by decide)
  | mapping _ isEntries isOthers =>
      rw [typeName_of_entries? isEntries, typeName_of_entries? isOthers]

theorem symm (agrees : Agrees typed left right) : Agrees typed right left := by
  induction agrees with
  | scalar isFirst isSecond types =>
      exact .scalar isSecond isFirst fun strict => (types strict).symm
  | @collection _ _ kind _ items others _ isItems isOthers meets perm inPlace length _ ih =>
      have arranges : Arranged kind.isOrdered (fun item other => Agrees typed other item)
        items others := .of_zip perm inPlace length ih
      exact of_items isOthers isItems meets.symm (meets.isOrdered_eq ▸ arranges.symm)
  | @mapping _ _ entries others _ isEntries isOthers perm length _ _ keys values =>
      have arranges : Arranged false (fun entry other => OnEntries typed other entry)
          entries others :=
        .of_zip perm nofun length fun pair member => ⟨keys pair member, values pair member⟩
      exact of_entries isOthers isEntries arranges.symm

theorem trans (first : Agrees typed left right) (second : Agrees typed right third) :
    Agrees typed left third := by
  induction first generalizing third with
  | scalar isFirst isSecond types =>
      exact .scalar isFirst (second.exists_scalar isSecond) fun strict =>
        (types strict).trans (second.typeName_eq strict)
  | @collection _ _ kind _ items others _ isItems isOthers meets perm inPlace length _ ih =>
      obtain ⟨lastKind, last, isLast, lastMeets, lastArranges⟩ := second.exists_items isOthers
      have arranges : Arranged kind.isOrdered
          (fun item other => ∀ {last}, Agrees typed other last → Agrees typed item last)
          items others := .of_zip perm inPlace length ih
      rw [← meets.isOrdered_eq] at lastArranges
      exact of_items isItems isLast (meets.trans lastMeets)
        (arranges.trans lastArranges fun _ _ _ joins agrees => joins agrees)
  | @mapping _ _ entries others _ isEntries isOthers perm length _ _ keys values =>
      obtain ⟨last, isLast, lastArranges⟩ := second.exists_entries isOthers
      have arranges : Arranged false
          (fun entry other => ∀ {last}, OnEntries typed other last → OnEntries typed entry last)
          entries others :=
        .of_zip perm nofun length fun pair member _ agree =>
          ⟨keys pair member agree.1, values pair member agree.2⟩
      exact of_entries isEntries isLast
        (arranges.trans lastArranges fun _ _ _ joins agrees => joins agrees)

theorem loosen (agrees : Agrees true left right) : Agrees false left right := by
  induction agrees with
  | scalar isFirst isSecond => exact .scalar isFirst isSecond nofun
  | collection arranged isItems isOthers meets perm inPlace length _ ih =>
      exact .collection arranged isItems isOthers (.inl meets.eq) perm inPlace length ih
  | mapping arranged isEntries isOthers perm length _ _ keys values =>
      exact .mapping arranged isEntries isOthers perm length keys values

end Agrees

/-- Parts of the values that agree, at whatever depth, have the same type. -/
def TypesAgree (left right : Value) : Prop :=
  ∀ inner other, left.Occurs inner → right.Occurs other → Agrees false inner other →
    inner.typeName = other.typeName

theorem TypesAgree.part {left right part other : Value} (types : TypesAgree left right)
    (member : part ∈ left.parts) (inside : other ∈ right.parts) : TypesAgree part other :=
  fun inner otherInner occurs otherOccurs =>
    types inner otherInner ((Occurs.self.part member).trans occurs)
      ((Occurs.self.part inside).trans otherOccurs)

theorem Agrees.tighten {left right : Value} (agrees : Agrees false left right)
    (types : left.typeName = right.typeName)
    (inner : ∀ part ∈ left.parts, ∀ other ∈ right.parts, TypesAgree part other) :
    Agrees true left right := by
  induction agrees with
  | scalar isFirst isSecond => exact .scalar isFirst isSecond fun _ => types
  | collection arranged isItems isOthers _ perm inPlace length each ih =>
      rw [typeName_of_items? isItems, typeName_of_items? isOthers] at types
      rw [parts_of_items? isItems, parts_of_items? isOthers] at inner
      have meets := CollectionKind.typeName_injective types
      refine .collection arranged isItems isOthers (.inl meets) perm inPlace length ?_
      intro pair member
      obtain ⟨inItems, inArranged⟩ := List.of_mem_zip member
      have inOthers := perm.mem_iff.mp inArranged
      have pairTypes := inner pair.1 inItems pair.2 inOthers
      exact ih pair member (pairTypes _ _ .self .self (each pair member))
        fun part isPart other isOther => pairTypes.part isPart isOther
  | @mapping left right entries others arranged isEntries isOthers perm length keys values
      keysIh valuesIh =>
      have ofPair : ∀ pair ∈ entries.zip arranged,
          TypesAgree pair.1.1 pair.2.1 ∧ TypesAgree pair.1.2 pair.2.2 := by
        intro pair member
        obtain ⟨inEntries, inArranged⟩ := List.of_mem_zip member
        have isPart := mem_parts_of_entries? isEntries inEntries
        have isOther := mem_parts_of_entries? isOthers (perm.mem_iff.mp inArranged)
        exact ⟨inner _ isPart.1 _ isOther.1, inner _ isPart.2 _ isOther.2⟩
      refine .mapping arranged isEntries isOthers perm length ?_ ?_
      · intro pair member
        have keyTypes := (ofPair pair member).1
        exact keysIh pair member (keyTypes _ _ .self .self (keys pair member))
          fun part isPart other isOther => keyTypes.part isPart isOther
      · intro pair member
        have valueTypes := (ofPair pair member).2
        exact valuesIh pair member (valueTypes _ _ .self .self (values pair member))
          fun part isPart other isOther => valueTypes.part isPart isOther

/-- What containers, numbers, texts, octets and times make: the items of a set differ, and the keys
of a mapping, and every number is one. -/
structure IsData (value : Value) : Prop where
  scalars : ∀ inner, value.Occurs inner → inner.view = .atom → inner.scalar?.isSome = true
  items : ∀ inner kind items, value.Occurs inner → inner.items? = some (kind, items) →
    kind.isOrdered = false → items.Pairwise fun first second => ¬ Agrees false first second
  keys : ∀ inner entries, value.Occurs inner → inner.entries? = some entries →
    entries.Pairwise fun first second => ¬ Agrees false first.1 second.1

theorem IsData.part {value part : Value} (data : value.IsData) (member : part ∈ value.parts) :
    part.IsData where
  scalars inner occurs := data.scalars inner ((Occurs.self.part member).trans occurs)
  items inner kind items occurs :=
    data.items inner kind items ((Occurs.self.part member).trans occurs)
  keys inner entries occurs := data.keys inner entries ((Occurs.self.part member).trans occurs)

theorem isData_of_parts {value : Value}
    (scalars : value.view = .atom → value.scalar?.isSome = true)
    (items : ∀ kind items, value.items? = some (kind, items) → kind.isOrdered = false →
      items.Pairwise fun first second => ¬ Agrees false first second)
    (keys : ∀ entries, value.entries? = some entries →
      entries.Pairwise fun first second => ¬ Agrees false first.1 second.1)
    (parts : ∀ part ∈ value.parts, part.IsData) : value.IsData where
  scalars inner occurs level := by
    rcases occurs.eq_or_inside with rfl | ⟨part, member, inside⟩
    · exact scalars level
    · exact (parts part member).scalars inner inside level
  items inner kind found occurs := by
    rcases occurs.eq_or_inside with rfl | ⟨part, member, inside⟩
    · exact items kind found
    · exact (parts part member).items inner kind found inside
  keys inner entries occurs := by
    rcases occurs.eq_or_inside with rfl | ⟨part, member, inside⟩
    · exact keys entries
    · exact (parts part member).keys inner entries inside

theorem isData_of_scalar {value : Value} {meaning : Scalar}
    (stands : value.scalar? = some meaning) : value.IsData := by
  have level := view_of_scalar? stands
  have noParts : value.parts = [] := by
    cases value <;> first | rfl | cases stands
  exact isData_of_parts (fun _ => by simp [stands]) (by simp [items?, level])
    (by simp [entries?, level]) (by simp [noParts])

theorem isData_of_items {value : Value} {kind : CollectionKind} {items : List Value}
    (isItems : value.items? = some (kind, items))
    (differ : kind.isOrdered = false →
      items.Pairwise fun first second => ¬ Agrees false first second)
    (each : ∀ item ∈ items, item.IsData) : value.IsData := by
  obtain ⟨held, level, _⟩ := view_of_items? isItems
  refine isData_of_parts (by simp [level]) ?_ ?_ (by rwa [parts_of_items? isItems])
  · intro otherKind others isOthers unordered
    cases isItems.symm.trans isOthers
    exact differ unordered
  · simp [entries?_of_items? isItems]

theorem IsData.entry_unique {value : Value} (data : value.IsData) {entries : List (Value × Value)}
    (isEntries : value.entries? = some entries) {entry other : Value × Value} {key : Value}
    (member : entry ∈ entries) (inside : other ∈ entries) (entryAgrees : Agrees false entry.1 key)
    (otherAgrees : Agrees false other.1 key) : entry = other := by
  by_contra different
  have symmetric : Std.Symm fun (first second : Value × Value) => ¬ Agrees false first.1 second.1 :=
    ⟨fun _ _ differ agrees => differ agrees.symm⟩
  exact (data.keys value entries .self isEntries).forall member inside different
    (entryAgrees.trans otherAgrees.symm)

theorem arranged_entries_iff {left right : Value} (leftData : left.IsData)
    {entries others : List (Value × Value)} (isEntries : left.entries? = some entries)
    (isOthers : right.entries? = some others) (length : entries.length = others.length) :
    (∀ entry ∈ entries, ∃ other ∈ others,
        Agrees false other.1 entry.1 ∧ Agrees false entry.2 other.2) ↔ Agrees false left right := by
  constructor
  · intro covered
    refine .of_entries isEntries isOthers (.of_covered length ?_ ?_)
    · refine (leftData.keys left entries .self isEntries).imp fun differ other agrees again => ?_
      exact differ (agrees.1.trans again.1.symm)
    · intro entry member
      obtain ⟨other, inside, keys, values⟩ := covered entry member
      exact ⟨other, inside, keys.symm, values⟩
  · intro agrees entry member
    obtain ⟨found, isFound, arranges⟩ := agrees.exists_entries isEntries
    cases isOthers.symm.trans isFound
    obtain ⟨other, inside, keys, values⟩ := arranges.exists_of_mem member
    exact ⟨other, inside, keys.symm, values⟩

theorem arranged_items_iff {left right : Value} (leftData : left.IsData)
    {kind otherKind : CollectionKind} {items others : List Value}
    (isItems : left.items? = some (kind, items))
    (isOthers : right.items? = some (otherKind, others)) (unordered : kind.isOrdered = false)
    (otherUnordered : otherKind.isOrdered = false)
    (length : items.length = others.length) :
    (∀ item ∈ items, ∃ other ∈ others, Agrees false item other) ↔ Agrees false left right := by
  constructor
  · intro covered
    refine .of_items isItems isOthers (.inr ⟨rfl, unordered, otherUnordered⟩) ?_
    rw [unordered]
    refine .of_covered length ?_ covered
    refine (leftData.items left kind items .self isItems unordered).imp ?_
    exact fun differ other agrees again => differ (agrees.trans again.symm)
  · intro agrees item member
    obtain ⟨_, found, isFound, _, arranges⟩ := agrees.exists_items isItems
    cases isOthers.symm.trans isFound
    exact arranges.exists_of_mem member

theorem paired_items_iff {left right : Value} {kind : CollectionKind} {items others : List Value}
    (isItems : left.items? = some (kind, items)) (isOthers : right.items? = some (kind, others))
    (ordered : kind.isOrdered = true) :
    List.Forall₂ (Agrees false) items others ↔ Agrees false left right := by
  constructor
  · intro paired
    exact .of_items isItems isOthers (.inl rfl) ⟨others, .refl _, fun _ => rfl, paired⟩
  · intro agrees
    obtain ⟨_, found, isFound, _, arranged, _, inPlace, paired⟩ := agrees.exists_items isItems
    cases isOthers.symm.trans isFound
    rwa [← inPlace ordered]

section Deciding

variable {same : Value → Value → Option Bool} {left right : Value}

theorem compareCollections_tells (leftData : left.IsData) {kind otherKind : CollectionKind}
    {items others : List Value} (isItems : left.items? = some (kind, items))
    (isOthers : right.items? = some (otherKind, others))
    (tells : ∀ item ∈ items, ∀ other ∈ others, Tells same (Agrees false) item other)
    {equal : Bool}
    (decided : (if items.length ≠ others.length then some false
      else if (kind = .set || kind = .frozenSet) &&
          (otherKind = .set || otherKind = .frozenSet) then
        coveredBy same items others
      else if kind = otherKind then pairwise same items others
      else some false) = some equal) : equal = true ↔ Agrees false left right := by
  have agreeing (agrees : Agrees false left right) :
      kind.Meets false otherKind ∧ items.length = others.length := by
    obtain ⟨_, found, isFound, meets, arranges⟩ := agrees.exists_items isItems
    cases isOthers.symm.trans isFound
    exact ⟨meets, arranges.length_eq⟩
  split at decided
  · rename_i differ
    cases decided
    exact iff_of_false (by decide) fun agrees => differ (agreeing agrees).2
  rename_i length
  rw [ne_eq, not_not] at length
  simp only [Bool.and_eq_true, Bool.or_eq_true, decide_eq_true_eq,
    ← CollectionKind.isOrdered_eq_false_iff] at decided
  split at decided
  · rename_i unordered
    exact (coveredBy_iff tells decided).trans
      (arranged_items_iff leftData isItems isOthers unordered.1 unordered.2 length)
  rename_i notUnordered
  split at decided
  · rename_i sameKind
    subst sameKind
    have ordered : kind.isOrdered = true := by simpa using notUnordered
    exact (pairwise_iff tells decided).trans (paired_items_iff isItems isOthers ordered)
  · rename_i differentKind
    cases decided
    refine iff_of_false (by decide) fun agrees => ?_
    exact (agreeing agrees).1.elim differentKind fun loose => notUnordered loose.2

theorem compareMappings_tells (leftData : left.IsData) (rightData : right.IsData)
    {entries others : List (Value × Value)} (isEntries : left.entries? = some entries)
    (isOthers : right.entries? = some others)
    (tellsKeys : ∀ entry ∈ entries, ∀ other ∈ others,
      Tells same (Agrees false) other.1 entry.1)
    (tellsValues : ∀ entry ∈ entries, ∀ other ∈ others,
      Tells same (Agrees false) entry.2 other.2)
    {equal : Bool}
    (decided : (if entries.length ≠ others.length then some false
      else entriesCoveredBy same entries others) = some equal) :
    equal = true ↔ Agrees false left right := by
  split at decided
  · rename_i differ
    cases decided
    refine iff_of_false (by decide) fun agrees => ?_
    obtain ⟨found, isFound, arranges⟩ := agrees.exists_entries isEntries
    cases isOthers.symm.trans isFound
    exact differ arranges.length_eq
  · rename_i length
    rw [ne_eq, not_not] at length
    have unique := fun entry (_ : entry ∈ entries) other (inside : other ∈ others) another again =>
      @IsData.entry_unique right rightData others isOthers other another entry.1 inside again
    exact (entriesCoveredBy_iff tellsKeys tellsValues unique decided).trans
      (arranged_entries_iff leftData isEntries isOthers length)

end Deciding

theorem IsData.agrees_self {value : Value} (data : value.IsData) {steps : Nat}
    (ends : value.EndsAfter steps) (typed : Bool) : Agrees typed value value := by
  induction steps generalizing value with
  | zero => exact absurd (ends [] trivial) (Nat.not_lt_zero _)
  | succ steps ih =>
      have parts : ∀ part ∈ value.parts, Agrees typed part part := fun part member =>
        ih (data.part member) (ends.step member)
      cases level : value.view with
      | atom =>
          obtain ⟨meaning, stands⟩ := Option.isSome_iff_exists.mp (data.scalars value .self level)
          exact .scalar stands stands fun _ => rfl
      | collection kind items =>
          have isItems : value.items? = some (kind, items.map Held.value) := by
            simp only [items?, level]
          rw [parts_of_items? isItems] at parts
          exact .of_items isItems isItems (.inl rfl)
            ⟨_, .refl _, fun _ => rfl, List.forall₂_same.mpr parts⟩
      | mapping entries =>
          have isEntries : value.entries? =
              some (entries.map fun entry => (entry.1, entry.2.value)) := by
            simp only [entries?, level]
          refine .of_entries isEntries isEntries
            ⟨_, .refl _, fun _ => rfl, List.forall₂_same.mpr ?_⟩
          intro entry member
          obtain ⟨isKey, isValue⟩ := mem_parts_of_entries? isEntries member
          exact ⟨parts _ isKey, parts _ isValue⟩

theorem isSameObject_of_scalar? {left : Value} {meaning : Scalar}
    (stands : left.scalar? = some meaning) (right : Value) : left.isSameObject right = false := by
  cases left with
  | float number =>
      obtain ⟨amount, isNumber, _⟩ := number?_of_isNumeric rfl stands
      have isNumber : number.isNotANumber = false := by
        cases meaningEq : number.meaning with
        | notANumber => simp [number?, Binary64.amount?, meaningEq] at isNumber
        | infinite negative => simp [Binary64.isNotANumber, meaningEq]
        | finite negative significand exponent => simp [Binary64.isNotANumber, meaningEq]
      cases right <;> simp [isSameObject, Binary64.isSharedNotANumber, isNumber]
  | _ => rfl

theorem IsData.isSameObject_eq {left : Value} (data : left.IsData) (right : Value) :
    left.isSameObject right = false := by
  cases level : left.view with
  | atom =>
      obtain ⟨meaning, stands⟩ := Option.isSome_iff_exists.mp (data.scalars left .self level)
      exact isSameObject_of_scalar? stands right
  | collection kind items => cases left <;> first | rfl | cases level
  | mapping entries => cases left <;> first | rfl | cases level

theorem Tells.sameOrEqual {equal : Value → Value → Option Bool} {left right : Value}
    (data : left.IsData) (tells : Tells equal (Agrees false) left right) :
    Tells (sameOrEqual equal) (Agrees false) left right := by
  unfold Tells Value.sameOrEqual
  rw [data.isSameObject_eq]
  exact tells

/-- The comparison of values that are data decides whether they agree, whenever it decides. -/
theorem equalWithin_tells (fuel : Nat) {left right : Value} (leftData : left.IsData)
    (rightData : right.IsData) : Tells (equalWithin fuel) (Agrees false) left right := by
  induction fuel generalizing left right with
  | zero => rintro equal ⟨⟩
  | succ fuel ih =>
      have tells : ∀ part ∈ left.parts, ∀ other ∈ right.parts,
          Tells (sameOrEqual (equalWithin fuel)) (Agrees false) part other ∧
            Tells (sameOrEqual (equalWithin fuel)) (Agrees false) other part :=
        fun part member other inside =>
          ⟨.sameOrEqual (leftData.part member) (ih (leftData.part member) (rightData.part inside)),
            .sameOrEqual (rightData.part inside)
              (ih (rightData.part inside) (leftData.part member))⟩
      intro equal decided
      cases leftLevel : left.view <;> cases rightLevel : right.view
      case atom.atom =>
        obtain ⟨first, isFirst⟩ :=
          Option.isSome_iff_exists.mp (leftData.scalars left .self leftLevel)
        obtain ⟨second, isSecond⟩ :=
          Option.isSome_iff_exists.mp (rightData.scalars right .self rightLevel)
        obtain ⟨answer, answered, isSame⟩ := equalWithin_scalars isFirst isSecond fuel
        cases decided.symm.trans answered
        rw [isSame]
        constructor
        · rintro rfl
          exact .scalar isFirst isSecond nofun
        · exact fun agrees => Option.some.inj ((agrees.exists_scalar isFirst).symm.trans isSecond)
      case collection.collection kind items otherKind others =>
        have isItems : left.items? = some (kind, items.map Held.value) := by
          simp only [items?, leftLevel]
        have isOthers : right.items? = some (otherKind, others.map Held.value) := by
          simp only [items?, rightLevel]
        rw [parts_of_items? isItems, parts_of_items? isOthers] at tells
        simp only [equalWithin, leftLevel, rightLevel] at decided
        exact compareCollections_tells leftData isItems isOthers
          (fun item member other inside => (tells item member other inside).1) decided
      case mapping.mapping entries others =>
        have isEntries : left.entries? =
            some (entries.map fun entry => (entry.1, entry.2.value)) := by
          simp only [entries?, leftLevel]
        have isOthers : right.entries? =
            some (others.map fun entry => (entry.1, entry.2.value)) := by
          simp only [entries?, rightLevel]
        simp only [equalWithin, leftLevel, rightLevel] at decided
        refine compareMappings_tells leftData rightData isEntries isOthers ?_ ?_
          (by simpa only [List.length_map] using decided)
        · intro entry member other inside
          exact (tells _ (mem_parts_of_entries? isEntries member).1 _
            (mem_parts_of_entries? isOthers inside).1).2
        · intro entry member other inside
          exact (tells _ (mem_parts_of_entries? isEntries member).2 _
            (mem_parts_of_entries? isOthers inside).2).1
      all_goals
        simp only [equalWithin, leftLevel, rightLevel] at decided
        cases decided
        refine iff_of_false (by decide) fun agrees => ?_
        simpa [leftLevel, rightLevel, View.IsLike] using agrees.isLike

end Value
end TolerantValidation
