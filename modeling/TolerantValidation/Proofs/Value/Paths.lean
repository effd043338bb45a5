import Mathlib.Data.List.Nodup
import TolerantValidation.Proofs.Value.Filling

/-!
Where paths lead. A path goes down by positions in lists and tuples and by keys of mappings; in
mappings without a key twice it leads to one place only.
-/

namespace TolerantValidation

/-- What stands at the end of a path: a value, or an entry of a mapping that is named by its key. -/
inductive Found where
  | value (value : Value)
  | entry (key held : Value)

namespace Found

def held : Found → Value
  | .value reached => reached
  | .entry _ reached => reached

def judged : Found → Value
  | .value reached => reached
  | .entry key _ => key

end Found

namespace Value

inductive Leads : Value → List Value → Found → Prop
  | here {value} : Leads value [] (.value value)
  | entry {value entries key held} : value.entries? = some entries → (key, held) ∈ entries →
      Leads value [key] (.entry key held)
  | item {value items item path found} {index : Nat} : value.sequence? = some items →
      items[index]? = some item → Leads item path found → Leads value (.int index :: path) found
  | under {value entries key held path found} : value.entries? = some entries →
      (key, held) ∈ entries → Leads held path found → Leads value (key :: path) found

/-- Every mapping in the value has keys that can be keys, and none of them twice or equal to
another. -/
def HasProperKeys (value : Value) : Prop :=
  ∀ path inner entries, value.Leads path (.value inner) → inner.entries? = some entries →
    (∀ entry ∈ entries, entry.1.unhashable? = none) ∧ HasDistinctKeys entries ∧
      (entries.map Prod.fst).Nodup

theorem HasProperKeys.item {value : Value} {items : List Value} (proper : value.HasProperKeys)
    (sequence : value.sequence? = some items) {item : Value} (member : item ∈ items) :
    item.HasProperKeys := by
  obtain ⟨index, at_⟩ := List.mem_iff_getElem?.mp member
  intro path inner entries leads
  exact proper _ inner entries (.item sequence at_ leads)

theorem HasProperKeys.held {value : Value} {entries : List (Value × Value)}
    (proper : value.HasProperKeys) (mapping : value.entries? = some entries)
    {entry : Value × Value} (member : entry ∈ entries) : entry.2.HasProperKeys := by
  intro path inner innerEntries leads
  exact proper _ inner innerEntries (.under mapping member leads)

theorem entries?_eq_none_of_sequence? {value : Value} {items : List Value}
    (sequence : value.sequence? = some items) : value.entries? = none := by
  unfold sequence? at sequence
  unfold entries?
  cases level : value.view with
  | atom => rfl
  | collection kind items => rfl
  | mapping entries =>
      rw [level] at sequence
      cases sequence

theorem hasProperKeys_of_atom {value : Value} (noSequence : value.sequence? = none)
    (noMapping : value.entries? = none) : value.HasProperKeys := by
  intro path inner entries leads mapping
  cases leads with
  | here => cases noMapping.symm.trans mapping
  | item sequence => cases noSequence.symm.trans sequence
  | under outer => cases noMapping.symm.trans outer

theorem hasProperKeys_of_items {value : Value} {items : List Value}
    (sequence : value.sequence? = some items) (each : ∀ item ∈ items, item.HasProperKeys) :
    value.HasProperKeys := by
  have noMapping := entries?_eq_none_of_sequence? sequence
  intro path inner entries leads mapping
  cases leads with
  | here => cases noMapping.symm.trans mapping
  | item otherSequence at_ leads =>
      cases sequence.symm.trans otherSequence
      exact each _ (List.mem_of_getElem? at_) _ inner entries leads mapping
  | under outer => cases noMapping.symm.trans outer

theorem hasProperKeys_of_entries {value : Value} {entries : List (Value × Value)}
    (mapping : value.entries? = some entries)
    (hashable : ∀ entry ∈ entries, entry.1.unhashable? = none)
    (distinct : HasDistinctKeys entries) (once : (entries.map Prod.fst).Nodup)
    (each : ∀ entry ∈ entries, entry.2.HasProperKeys) : value.HasProperKeys := by
  intro path inner innerEntries leads innerMapping
  cases leads with
  | here =>
      cases mapping.symm.trans innerMapping
      exact ⟨hashable, distinct, once⟩
  | item sequence => cases mapping.symm.trans (entries?_eq_none_of_sequence? sequence)
  | under outer member leads =>
      cases mapping.symm.trans outer
      exact each _ member _ inner innerEntries leads innerMapping

theorem held_eq_of_key_eq {entries : List (Value × Value)} {key first second : Value}
    (distinct : (entries.map Prod.fst).Nodup) (one : (key, first) ∈ entries)
    (other : (key, second) ∈ entries) : first = second :=
  congrArg Prod.snd (List.inj_on_of_nodup_map distinct one other rfl)

theorem Leads.held_unique {value : Value} {path : List Value} {found other : Found}
    (leads : value.Leads path found) (proper : value.HasProperKeys)
    (leadsOther : value.Leads path other) : other.held = found.held := by
  induction leads generalizing other with
  | here =>
      cases leadsOther
      rfl
  | entry mapping member =>
      have once := (proper [] _ _ .here mapping).2.2
      cases leadsOther with
      | entry otherMapping otherMember =>
          cases mapping.symm.trans otherMapping
          simpa only [Found.held] using held_eq_of_key_eq once otherMember member
      | item sequence => cases mapping.symm.trans (entries?_eq_none_of_sequence? sequence)
      | under otherMapping otherMember rest =>
          cases mapping.symm.trans otherMapping
          cases rest
          simpa only [Found.held] using held_eq_of_key_eq once otherMember member
  | item sequence at_ _ ih =>
      have noMapping := entries?_eq_none_of_sequence? sequence
      cases leadsOther with
      | entry mapping => cases noMapping.symm.trans mapping
      | under mapping => cases noMapping.symm.trans mapping
      | item otherSequence otherAt rest =>
          cases sequence.symm.trans otherSequence
          cases at_.symm.trans otherAt
          exact ih (proper.item sequence (List.mem_of_getElem? at_)) rest
  | under mapping member leads ih =>
      have once := (proper [] _ _ .here mapping).2.2
      cases leadsOther with
      | entry otherMapping otherMember =>
          cases mapping.symm.trans otherMapping
          cases leads
          simpa only [Found.held] using held_eq_of_key_eq once otherMember member
      | item sequence => cases mapping.symm.trans (entries?_eq_none_of_sequence? sequence)
      | under otherMapping otherMember rest =>
          cases mapping.symm.trans otherMapping
          cases held_eq_of_key_eq once otherMember member
          exact ih (proper.held mapping member) rest

end Value
end TolerantValidation
