import Mathlib.Data.List.Pairwise
import Mathlib.Data.List.Perm.Basic
import TolerantValidation.Value.Equality

/-!
Lists whose items are related one to one, in order or in some order, and what the searches of a
comparison find out about it from answers on single items.
-/

namespace TolerantValidation.Value

theorem exists_of_forall₂ {Item Other : Type} {same : Item → Other → Prop} {items : List Item}
    {others : List Other} (inPlace : List.Forall₂ same items others) {item : Item}
    (member : item ∈ items) : ∃ other ∈ others, same item other := by
  induction inPlace with
  | nil => exact absurd member List.not_mem_nil
  | cons related rest ih =>
      rcases List.mem_cons.mp member with rfl | later
      · exact ⟨_, List.mem_cons_self, related⟩
      · obtain ⟨other, inside, otherSame⟩ := ih later
        exact ⟨other, List.mem_cons_of_mem _ inside, otherSame⟩

theorem forall₂_join {Item Other Third : Type} {related : Item → Other → Prop}
    {next : Other → Third → Prop} {whole : Item → Third → Prop} {left : List Item}
    {right : List Other} {third : List Third} (first : List.Forall₂ related left right)
    (second : List.Forall₂ next right third)
    (joins : ∀ item other last, related item other → next other last → whole item last) :
    List.Forall₂ whole left third := by
  induction first generalizing third with
  | nil =>
      cases second
      exact .nil
  | cons here _ ih =>
      cases second with
      | cons there rest => exact .cons (joins _ _ _ here there) (ih rest)

/-- The items of one list are related to those of the other, each to one of them. -/
def Arranged {Item Other : Type} (ordered : Bool) (related : Item → Other → Prop)
    (left : List Item) (right : List Other) : Prop :=
  ∃ arranged, arranged.Perm right ∧ (ordered = true → arranged = right) ∧
    List.Forall₂ related left arranged

namespace Arranged

variable {Item Other Third : Type} {ordered : Bool} {related : Item → Other → Prop}
  {left : List Item} {right : List Other}

theorem of_zip {arranged : List Other} (perm : arranged.Perm right)
    (inPlace : ordered = true → arranged = right) (length : left.length = arranged.length)
    (each : ∀ pair ∈ left.zip arranged, related pair.1 pair.2) :
    Arranged ordered related left right :=
  ⟨arranged, perm, inPlace, List.forall₂_iff_zip.mpr ⟨length, fun member => each _ member⟩⟩

theorem exists_zip (arranges : Arranged ordered related left right) :
    ∃ arranged, arranged.Perm right ∧ (ordered = true → arranged = right) ∧
      left.length = arranged.length ∧ ∀ pair ∈ left.zip arranged, related pair.1 pair.2 := by
  obtain ⟨arranged, perm, inPlace, paired⟩ := arranges
  exact ⟨arranged, perm, inPlace, paired.length_eq,
    fun pair member => List.forall₂_zip paired member⟩

theorem length_eq (arranges : Arranged ordered related left right) :
    left.length = right.length := by
  obtain ⟨arranged, perm, _, paired⟩ := arranges
  exact paired.length_eq.trans perm.length_eq

theorem exists_of_mem (arranges : Arranged ordered related left right) {item : Item}
    (member : item ∈ left) : ∃ other ∈ right, related item other := by
  obtain ⟨arranged, perm, _, paired⟩ := arranges
  obtain ⟨other, inside, relates⟩ := exists_of_forall₂ paired member
  exact ⟨other, perm.mem_iff.mp inside, relates⟩

theorem symm (arranges : Arranged ordered related left right) :
    Arranged ordered (fun other item => related item other) right left := by
  obtain ⟨arranged, perm, inPlace, paired⟩ := arranges
  cases ordered with
  | true =>
      obtain rfl := inPlace rfl
      exact ⟨left, .refl _, fun _ => rfl, paired.flip⟩
  | false =>
      obtain ⟨others, related, back⟩ := List.perm_comp_forall₂ perm.symm paired.flip
      exact ⟨others, back, nofun, related⟩

theorem trans {third : List Third} {next : Other → Third → Prop} {whole : Item → Third → Prop}
    (first : Arranged ordered related left right) (second : Arranged ordered next right third)
    (joins : ∀ item other last, related item other → next other last → whole item last) :
    Arranged ordered whole left third := by
  obtain ⟨arranged, perm, inPlace, paired⟩ := first
  obtain ⟨others, otherPerm, othersInPlace, otherPaired⟩ := second
  obtain ⟨rearranged, rearrangedPaired, back⟩ := List.perm_comp_forall₂ perm otherPaired
  cases ordered with
  | true =>
      obtain rfl := inPlace rfl
      exact ⟨others, otherPerm, othersInPlace, forall₂_join paired otherPaired joins⟩
  | false =>
      exact ⟨rearranged, back.trans otherPerm, nofun, forall₂_join paired rearrangedPaired joins⟩

/-- In any order it is enough that each item is related to one, when no two are to the same. -/
theorem of_covered (length : left.length = right.length)
    (distinct : left.Pairwise fun first second =>
      ∀ other, related first other → ¬ related second other)
    (covered : ∀ item ∈ left, ∃ other ∈ right, related item other) :
    Arranged false related left right := by
  induction left generalizing right with
  | nil =>
      obtain rfl := List.length_eq_zero_iff.mp length.symm
      exact ⟨[], .refl _, nofun, .nil⟩
  | cons first rest ih =>
      obtain ⟨different, distinct⟩ := List.pairwise_cons.mp distinct
      obtain ⟨partner, member, here⟩ := covered first List.mem_cons_self
      obtain ⟨before, after, rfl⟩ := List.append_of_mem member
      have split : (before ++ partner :: after).Perm (partner :: (before ++ after)) :=
        List.perm_middle
      have restCovered : ∀ item ∈ rest, ∃ other ∈ before ++ after, related item other := by
        intro item inside
        obtain ⟨other, found, relates⟩ := covered item (List.mem_cons_of_mem _ inside)
        rcases List.mem_cons.mp (split.mem_iff.mp found) with rfl | elsewhere
        · exact absurd relates (different item inside other here)
        · exact ⟨other, elsewhere, relates⟩
      have restLength : rest.length = (before ++ after).length := by
        have total := split.length_eq
        simp only [List.length_cons] at length total
        omega
      obtain ⟨arranged, perm, _, paired⟩ := ih restLength distinct restCovered
      exact ⟨partner :: arranged, (perm.cons partner).trans split.symm, nofun, .cons here paired⟩

end Arranged

section Searching

variable {same : Value → Value → Option Bool} {holds : Value → Value → Prop}

/-- Whenever the comparison of two values answers, it tells whether they are related. -/
def Tells (same : Value → Value → Option Bool) (holds : Value → Value → Prop)
    (left right : Value) : Prop :=
  ∀ equal, same left right = some equal → (equal = true ↔ holds left right)

theorem found_iff {item : Value} {right : List Value}
    (tells : ∀ other ∈ right, Tells same holds item other) {found : Bool}
    (searched : right.foldr (fun other found => do
      if ← same item other then some true else found) (some false) = some found) :
    found = true ↔ ∃ other ∈ right, holds item other := by
  induction right with
  | nil =>
      cases searched
      simp
  | cons other rest ih =>
      rw [List.forall_mem_cons] at tells
      obtain ⟨tellsOther, tellsRest⟩ := tells
      rw [List.foldr_cons] at searched
      cases compared : same item other with
      | none => simp [compared] at searched
      | some equal =>
          have isEqual := tellsOther equal compared
          cases equal with
          | true =>
              simp only [compared, Option.bind_eq_bind, Option.bind_some] at searched
              cases searched
              simpa using .inl (isEqual.mp rfl)
          | false =>
              have differs : ¬ holds item other := fun yes => absurd (isEqual.mpr yes) (by decide)
              simp only [compared, Option.bind_eq_bind, Option.bind_some] at searched
              simp [ih tellsRest searched, differs]

theorem coveredBy_iff {left right : List Value}
    (tells : ∀ item ∈ left, ∀ other ∈ right, Tells same holds item other) {covered : Bool}
    (searched : coveredBy same left right = some covered) :
    covered = true ↔ ∀ item ∈ left, ∃ other ∈ right, holds item other := by
  induction left with
  | nil =>
      cases searched
      simp
  | cons item rest ih =>
      rw [List.forall_mem_cons] at tells
      obtain ⟨tellsItem, tellsRest⟩ := tells
      simp only [coveredBy, List.foldr_cons] at searched ih
      obtain ⟨found, itemSearched, searched⟩ := Option.bind_eq_some_iff.mp searched
      have isFound := found_iff tellsItem itemSearched
      rw [List.forall_mem_cons, ← isFound]
      cases found with
      | true => simpa using ih tellsRest searched
      | false =>
          cases searched
          simp

theorem pairwise_iff {left right : List Value}
    (tells : ∀ item ∈ left, ∀ other ∈ right, Tells same holds item other) {equal : Bool}
    (compared : pairwise same left right = some equal) :
    equal = true ↔ List.Forall₂ holds left right := by
  induction left generalizing right with
  | nil => cases right <;> cases compared <;> simp
  | cons item left ih =>
      cases right with
      | nil =>
          cases compared
          simp
      | cons other right =>
          rw [pairwise] at compared
          obtain ⟨first, firstCompared, compared⟩ := Option.bind_eq_some_iff.mp compared
          have isFirst := tells item List.mem_cons_self other List.mem_cons_self first firstCompared
          have tellsRest := fun item member other inside =>
            tells item (List.mem_cons_of_mem _ member) other (List.mem_cons_of_mem _ inside)
          rw [List.forall₂_cons, ← isFirst]
          cases first with
          | true => simpa using ih tellsRest compared
          | false =>
              cases compared
              simp

theorem lookUp_some {key : Value} {entries : List (Value × Value)}
    (tells : ∀ entry ∈ entries, Tells same holds entry.1 key) {found : Option Value}
    (searched : lookUp same key entries = some found) :
    (∀ value, found = some value → ∃ entry ∈ entries, holds entry.1 key ∧ entry.2 = value) ∧
      (found = none → ∀ entry ∈ entries, ¬ holds entry.1 key) := by
  induction entries with
  | nil =>
      cases searched
      simp
  | cons entry rest ih =>
      rw [List.forall_mem_cons] at tells
      obtain ⟨tellsEntry, tellsRest⟩ := tells
      rw [lookUp] at searched
      obtain ⟨equal, compared, searched⟩ := Option.bind_eq_some_iff.mp searched
      have isEqual := tellsEntry equal compared
      cases equal with
      | true =>
          cases searched
          refine ⟨?_, nofun⟩
          rintro _ ⟨⟩
          exact ⟨entry, List.mem_cons_self, isEqual.mp rfl, rfl⟩
      | false =>
          have differs : ¬ holds entry.1 key := fun yes => absurd (isEqual.mpr yes) (by decide)
          obtain ⟨ofFound, ofNone⟩ := ih tellsRest searched
          constructor
          · intro value isFound
            obtain ⟨other, member, sameKey, sameValue⟩ := ofFound value isFound
            exact ⟨other, List.mem_cons_of_mem _ member, sameKey, sameValue⟩
          · intro isNone
            exact List.forall_mem_cons.mpr ⟨differs, ofNone isNone⟩

theorem entriesCoveredBy_iff {left right : List (Value × Value)}
    (tellsKeys : ∀ entry ∈ left, ∀ other ∈ right, Tells same holds other.1 entry.1)
    (tellsValues : ∀ entry ∈ left, ∀ other ∈ right, Tells same holds entry.2 other.2)
    (unique : ∀ entry ∈ left, ∀ other ∈ right, ∀ another ∈ right,
      holds other.1 entry.1 → holds another.1 entry.1 → other = another) {covered : Bool}
    (searched : entriesCoveredBy same left right = some covered) :
    covered = true ↔
      ∀ entry ∈ left, ∃ other ∈ right, holds other.1 entry.1 ∧ holds entry.2 other.2 := by
  induction left with
  | nil =>
      cases searched
      simp
  | cons entry rest ih =>
      rw [List.forall_mem_cons] at tellsKeys tellsValues unique
      have tail := ih tellsKeys.2 tellsValues.2 unique.2
      simp only [entriesCoveredBy, List.foldr_cons] at searched tail
      obtain ⟨found, lookedUp, searched⟩ := Option.bind_eq_some_iff.mp searched
      obtain ⟨ofFound, ofNone⟩ := lookUp_some tellsKeys.1 lookedUp
      rw [List.forall_mem_cons]
      cases found with
      | none =>
          cases searched
          have missing : ¬ ∃ other ∈ right, holds other.1 entry.1 ∧ holds entry.2 other.2 :=
            fun ⟨other, member, sameKey, _⟩ => ofNone rfl other member sameKey
          simp [missing]
      | some value =>
          obtain ⟨other, member, sameKey, rfl⟩ := ofFound value rfl
          obtain ⟨equal, compared, searched⟩ := Option.bind_eq_some_iff.mp searched
          have isEqual := tellsValues.1 other member equal compared
          have foundIff : (∃ other ∈ right, holds other.1 entry.1 ∧ holds entry.2 other.2) ↔
              equal = true := by
            rw [isEqual]
            constructor
            · rintro ⟨another, inside, anotherKey, anotherValue⟩
              rwa [unique.1 other member another inside sameKey anotherKey]
            · exact fun sameValue => ⟨other, member, sameKey, sameValue⟩
          rw [foundIff]
          cases equal with
          | true => simpa using tail searched
          | false =>
              cases searched
              simp

end Searching
end TolerantValidation.Value
