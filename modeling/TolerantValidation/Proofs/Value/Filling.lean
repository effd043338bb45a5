import TolerantValidation.Value.Entries

/-!
What mapping comes from pairs that are put in one after the other: equal keys are one key, which
keeps its first spelling and its place, and the last value under it stays. A pair can be put in if
its key can be hashed and compared with the keys that are there.
-/

namespace TolerantValidation.Value

theorem sameKey_text (first second : String) :
    (Value.text first).sameKey (.text second) = (first == second) := by
  simp [sameKey, sameOrEqual, isSameObject, equalWithin, hashLimit, view, isNumeric]

/-- Entries into which pairs were filled in the given order. -/
inductive Filled : List (Value × Value) → List (Value × Value) → Prop
  | empty : Filled [] []
  /-- A key that equals no key so far gets the last place. -/
  | fresh {pairs entries key value} : Filled pairs entries →
      (∀ entry ∈ entries, entry.1.sameKey key = false) →
      Filled (pairs ++ [(key, value)]) (entries ++ [(key, value)])
  /-- A key that equals one in the entries changes the value there. -/
  | again {pairs before kept old after key value} :
      Filled pairs (before ++ (kept, old) :: after) →
      (∀ entry ∈ before, entry.1.sameKey key = false) → kept.sameKey key = true →
      Filled (pairs ++ [(key, value)]) (before ++ (kept, value) :: after)

theorem put_of_fresh {key : Value} (value : Value) {entries : List (Value × Value)}
    (fresh : ∀ entry ∈ entries, entry.1.sameKey key = false) :
    put key value entries = entries ++ [(key, value)] := by
  induction entries with
  | nil => rfl
  | cons entry rest ih =>
      have different := fresh entry List.mem_cons_self
      have restFresh := ih fun other member => fresh other (List.mem_cons_of_mem _ member)
      simp [put, different, restFresh]

theorem put_of_again {key kept : Value} (value old : Value) {before : List (Value × Value)}
    (after : List (Value × Value)) (earlier : ∀ entry ∈ before, entry.1.sameKey key = false)
    (same : kept.sameKey key = true) :
    put key value (before ++ (kept, old) :: after) = before ++ (kept, value) :: after := by
  induction before with
  | nil => simp [put, same]
  | cons entry rest ih =>
      have different := earlier entry List.mem_cons_self
      have restPut := ih fun other member => earlier other (List.mem_cons_of_mem _ member)
      simp [put, different, restPut]

theorem fresh_or_again (key : Value) (entries : List (Value × Value)) :
    (∀ entry ∈ entries, entry.1.sameKey key = false) ∨
      ∃ before kept old after, entries = before ++ (kept, old) :: after ∧
        (∀ entry ∈ before, entry.1.sameKey key = false) ∧ kept.sameKey key = true := by
  induction entries with
  | nil => exact .inl (by simp)
  | cons entry rest ih =>
      cases same : entry.1.sameKey key with
      | true => exact .inr ⟨[], entry.1, entry.2, rest, rfl, by simp, same⟩
      | false =>
          rcases ih with fresh | ⟨before, kept, old, after, restEq, earlier, keptSame⟩
          · exact .inl (by simpa [same] using fresh)
          · exact .inr ⟨entry :: before, kept, old, after, by simp [restEq],
              by simpa [same] using earlier, keptSame⟩

theorem Filled.put {pairs entries : List (Value × Value)} (filled : Filled pairs entries)
    (key value : Value) : Filled (pairs ++ [(key, value)]) (put key value entries) := by
  rcases fresh_or_again key entries with fresh | ⟨before, kept, old, after, rfl, earlier, same⟩
  · rw [put_of_fresh value fresh]
    exact filled.fresh fresh
  · rw [put_of_again value old after earlier same]
    exact filled.again earlier same

/-- No two entries have equal keys, as in every mapping that was filled. -/
def HasDistinctKeys (entries : List (Value × Value)) : Prop :=
  (entries.map Prod.fst).Pairwise fun earlier later => earlier.sameKey later = false

theorem HasDistinctKeys.fresh {before after : List (Value × Value)} {pair : Value × Value}
    (distinct : HasDistinctKeys (before ++ pair :: after)) :
    ∀ entry ∈ before, entry.1.sameKey pair.1 = false := by
  simp only [HasDistinctKeys, List.map_append, List.pairwise_append] at distinct
  intro entry member
  exact distinct.2.2 entry.1 (List.mem_map_of_mem member) pair.1 (by simp)

theorem HasDistinctKeys.append_singleton {entries : List (Value × Value)}
    (distinct : HasDistinctKeys entries) {pair : Value × Value}
    (fresh : ∀ entry ∈ entries, entry.1.sameKey pair.1 = false) :
    HasDistinctKeys (entries ++ [pair]) := by
  unfold HasDistinctKeys
  rw [List.map_append, List.pairwise_append]
  refine ⟨distinct, List.pairwise_singleton _ _, ?_⟩
  simpa using fun entryKey entryValue member => fresh (entryKey, entryValue) member

theorem HasDistinctKeys.put {entries : List (Value × Value)} (distinct : HasDistinctKeys entries)
    (key value : Value) : HasDistinctKeys (Value.put key value entries) := by
  rcases fresh_or_again key entries with fresh | ⟨before, kept, old, after, rfl, earlier, same⟩
  · rw [put_of_fresh value fresh]
    exact distinct.append_singleton fresh
  · rw [put_of_again value old after earlier same]
    simpa [HasDistinctKeys] using distinct

theorem forall_mem_put (keyHolds valueHolds : Value → Prop) {entries : List (Value × Value)}
    (each : ∀ entry ∈ entries, keyHolds entry.1 ∧ valueHolds entry.2) {key value : Value}
    (keyHolding : keyHolds key) (valueHolding : valueHolds value) :
    ∀ entry ∈ Value.put key value entries, keyHolds entry.1 ∧ valueHolds entry.2 := by
  rcases fresh_or_again key entries with fresh | ⟨before, kept, old, after, rfl, earlier, same⟩
  · rw [put_of_fresh value fresh, List.forall_mem_append]
    exact ⟨each, by simpa using ⟨keyHolding, valueHolding⟩⟩
  · rw [put_of_again value old after earlier same]
    rw [List.forall_mem_append, List.forall_mem_cons] at each ⊢
    exact ⟨each.1, ⟨each.2.1.1, valueHolding⟩, each.2.2⟩

theorem ofPairs_of_hasDistinctKeys {entries : List (Value × Value)}
    (distinct : HasDistinctKeys entries) : ofPairs entries = entries := by
  have folded : ∀ rest before, HasDistinctKeys (before ++ rest) →
      rest.foldl (fun entries pair => put pair.1 pair.2 entries) before = before ++ rest := by
    intro rest
    induction rest with
    | nil =>
        intro before _
        simp
    | cons entry rest ih =>
        intro before distinct
        have fresh := distinct.fresh
        rw [List.foldl_cons, put_of_fresh entry.2 fresh, ih _ (by simpa using distinct)]
        simp
  exact folded entries [] distinct

example :
    let shared := Value.float (.sharedNotANumber 0)
    let own := Value.float .notANumber
    (ofPairs [(shared, .int 1), (shared, .int 2)]).length = 1 ∧
      (ofPairs [(own, .int 1), (own, .int 2)]).length = 2 := by decide

theorem keyFault?_eq_none_iff {key : Value} {entries : List (Value × Value)} :
    key.keyFault? entries = none ↔
      key.unhashable? = none ∧ ∀ entry ∈ entries, entry.1.sameTooDeep key = false := by
  unfold keyFault?
  cases key.unhashable? with
  | some fault => simp
  | none => simp

/-- The pairs can be put in one after the other, each where those before it have been put in. -/
def CanBeStored (stored : List (Value × Value)) : List (Value × Value) → Prop
  | [] => True
  | pair :: rest =>
    pair.1.keyFault? stored = none ∧ CanBeStored (put pair.1 pair.2 stored) rest

theorem canBeStored_append {stored first second : List (Value × Value)} :
    CanBeStored stored (first ++ second) ↔
      CanBeStored stored first ∧
        CanBeStored (first.foldl (fun entries pair => put pair.1 pair.2 entries) stored)
          second := by
  induction first generalizing stored with
  | nil => simp [CanBeStored]
  | cons pair rest ih =>
      simp only [List.cons_append, CanBeStored, ih, List.foldl_cons]
      exact and_assoc.symm

/-- Keys that can be hashed and differ from each other can be stored, however deep they nest. -/
theorem HasDistinctKeys.canBeStored {stored pairs : List (Value × Value)}
    (distinct : HasDistinctKeys (stored ++ pairs))
    (hashable : ∀ pair ∈ pairs, pair.1.unhashable? = none) : CanBeStored stored pairs := by
  induction pairs generalizing stored with
  | nil => trivial
  | cons pair rest ih =>
      rw [List.forall_mem_cons] at hashable
      have fresh := distinct.fresh
      refine ⟨keyFault?_eq_none_iff.mpr ⟨hashable.1, fun entry member => ?_⟩, ?_⟩
      · simp only [sameTooDeep, fresh entry member, Bool.false_and]
      · rw [put_of_fresh pair.2 fresh]
        exact ih (by simpa using distinct) hashable.2

end TolerantValidation.Value
