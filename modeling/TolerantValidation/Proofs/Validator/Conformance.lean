import Mathlib.Data.List.Basic
import TolerantValidation.Proofs.Validator.Acceptance
import TolerantValidation.Proofs.Validator.Siblings
import TolerantValidation.Validator.Function

/-!
What a tolerant schema accepts conforms to its strict form: what a collection keeps are values that
its parts accept again, so nothing is dropped on a second run and no callback is told.
-/

namespace TolerantValidation

namespace Validator

/-- Schemas that keep or drop parts of a value and change none of them. -/
inductive IsSelective : Validator → Prop
  | leaf {validator} : IsLeaf validator → IsSelective validator
  | notCircular : IsSelective .notCircular
  | refine {inner check message code fatal} : IsSelective inner →
      IsSelective (.refine inner check message code fatal)
  | array {element} : IsSelective element → IsSelective (.array element)
  | record {value key} : IsSelective value → IsLeaf key → IsSelective (.record value key)
  | looseArray {element onError} : IsSelective element → IsSelective (.looseArray element onError)
  | looseRecord {value key onError} : IsSelective value → IsLeaf key →
      IsSelective (.looseRecord value key onError)

/-- The validator with every tolerant collection, at any depth, made strict or given another
callback. -/
def recast (change : Option Sink → Option (Option Sink)) : Validator → Validator
  | .string least greatest => .string least greatest
  | .integer => .integer
  | .number => .number
  | .boolean => .boolean
  | .unknown => .unknown
  | .literal expected => .literal expected
  | .format reader => .format reader
  | .notCircular => .notCircular
  | .model shape strict => .model shape strict
  | .transform inner step => .transform (inner.recast change) step
  | .pipe first second => .pipe (first.recast change) (second.recast change)
  | .refine inner check message code fatal => .refine (inner.recast change) check message code fatal
  | .fallback inner sink => .fallback (inner.recast change) sink
  | .array element => .array (element.recast change)
  | .record value key => .record (value.recast change) (key.recast change)
  | .looseArray element onError =>
    match change onError with
    | none => .array (element.recast change)
    | some changed => .looseArray (element.recast change) changed
  | .looseRecord value key onError =>
    match change onError with
    | none => .record (value.recast change) (key.recast change)
    | some changed => .looseRecord (value.recast change) (key.recast change) changed

/-- Every tolerant collection replaced by its strict sibling. -/
def strictTwin : Validator → Validator := recast fun _ => none

/-- The validator accepts the value as it is, in whichever form its collections are, and tells
nobody. -/
structure Keeps (validator : Validator) (value : Value) : Prop where
  accepted : (validator.run value).outcome = .ok (.ok value)
  recast : ∀ change, (validator.recast change).run value = validator.run value
  untold : ∀ callback context, ¬ validator.Performs value (.sink callback context)

namespace IsLeaf

variable {validator : Validator}

theorem recast_eq (leaf : IsLeaf validator) (change : Option Sink → Option (Option Sink)) :
    validator.recast change = validator := by
  cases leaf <;> rfl

theorem keeps (leaf : IsLeaf validator) {value : Value}
    (accepted : IsAccepted validator.run value) : validator.Keeps value := by
  obtain ⟨input, returned⟩ := accepted
  have same := leaf.accepted_eq returned
  subst same
  refine ⟨returned, fun change => by rw [leaf.recast_eq change], ?_⟩
  intro callback context performs
  cases leaf.eq_part_of_performs performs

end IsLeaf

section Items

variable {check : Value → Run Verdict} {items : List Value}

theorem sortItems_of_kept (kept : ∀ item ∈ items, (check item).outcome = .ok (.ok item))
    (position : Nat) :
    sortItems check position items =
      ⟨items.flatMap fun item => (check item).events, .ok (items, [])⟩ := by
  have noIssues : ((items.zipIdx position).flatMap fun place =>
      Verdict.issuesBelow (.int place.2) (.ok place.1)) = [] :=
    List.flatMap_eq_nil_iff.mpr fun _ _ => rfl
  rw [sortItems_eq position items kept, noIssues]
  simp [Outcome.toList]

theorem arrayOf_of_kept (kept : ∀ item ∈ items, (check item).outcome = .ok (.ok item)) :
    arrayOf check (.list items) =
      ⟨items.flatMap fun item => (check item).events, .ok (.ok (.list items))⟩ := by
  simp only [arrayOf, Value.sequence?_collection_list, sortItems_of_kept kept]
  simp

theorem looseArrayOf_of_kept (kept : ∀ item ∈ items, (check item).outcome = .ok (.ok item))
    (onError : Option Sink) :
    looseArrayOf check onError (.list items) = arrayOf check (.list items) := by
  rw [arrayOf_of_kept kept]
  simp only [looseArrayOf, Value.sequence?_collection_list, keepItems_eq_sortItems check 0,
    sortItems_of_kept kept]
  cases onError <;> simp [tell]

theorem arrayOf_recast {element : Validator} (kept : ∀ item ∈ items, element.Keeps item)
    (change : Option Sink → Option (Option Sink)) :
    arrayOf (element.recast change).run (.list items) = arrayOf element.run (.list items) := by
  rw [arrayOf_of_kept fun item member => (kept item member).accepted, arrayOf_of_kept]
  · congr 1
    exact List.flatMap_congr fun item member =>
      congrArg Effect.events ((kept item member).recast change)
  · intro item member
    rw [(kept item member).recast change, (kept item member).accepted]

theorem array_keeps {element : Validator} (kept : ∀ item ∈ items, element.Keeps item) :
    (Validator.array element).Keeps (.list items) where
  accepted := by
    rw [run_array, arrayOf_of_kept fun item member => (kept item member).accepted]
  recast change := arrayOf_recast kept change
  untold := by
    intro callback context performs
    cases performs with
    | item sequence reached performs =>
        rw [Value.sequence?_collection_list] at sequence
        cases sequence
        exact (kept _ (by simp)).untold callback context performs

theorem looseArray_keeps {element : Validator} (kept : ∀ item ∈ items, element.Keeps item)
    (onError : Option Sink) : (Validator.looseArray element onError).Keeps (.list items) where
  accepted := by
    have accepted := fun item member => (kept item member).accepted
    rw [run_looseArray, looseArrayOf_of_kept accepted, arrayOf_of_kept accepted]
  recast change := by
    have accepted := fun item member => (kept item member).accepted
    rw [run_looseArray, looseArrayOf_of_kept accepted, ← arrayOf_recast kept change,
      Validator.recast]
    cases change onError with
    | none => rfl
    | some changed =>
        rw [run_looseArray, looseArrayOf_of_kept]
        intro item member
        rw [(kept item member).recast change, accepted item member]
  untold := by
    intro callback context performs
    cases performs with
    | looseItem sequence reached performs =>
        rw [Value.sequence?_collection_list] at sequence
        cases sequence
        exact (kept _ (by simp)).untold callback context performs
    | toldOfItems sequence sorted reports =>
        rw [Value.sequence?_collection_list] at sequence
        cases sequence
        rw [sortItems_of_kept fun item member => (kept item member).accepted] at sorted
        cases sorted
        exact reports rfl

end Items

section Entries

variable {checkKey checkValue : Value → Run Verdict} {entries : List (Value × Value)}

/-- Entries that the checks of keys and values accept as they are. -/
structure AreKept (checkKey checkValue : Value → Run Verdict) (entries : List (Value × Value)) :
    Prop where
  distinct : Value.HasDistinctKeys entries
  hashable : ∀ entry ∈ entries, entry.1.unhashable? = none
  keys : ∀ entry ∈ entries, (checkKey entry.1).outcome = .ok (.ok entry.1)
  values : ∀ entry ∈ entries, (checkValue entry.2).outcome = .ok (.ok entry.2)

theorem pairsOf_ok (entries : List (Value × Value)) : pairsOf .ok .ok entries = entries :=
  List.flatMap_singleton' entries

theorem AreKept.canBeStored (kept : AreKept checkKey checkValue entries) :
    Value.CanBeStored [] (pairsOf .ok .ok entries) := by
  rw [pairsOf_ok]
  exact Value.HasDistinctKeys.canBeStored kept.distinct kept.hashable

theorem sortLooseEntries_of_kept (kept : AreKept checkKey checkValue entries) :
    sortLooseEntries checkKey checkValue [] [] entries =
      ⟨entries.flatMap fun entry => (checkKey entry.1).events ++ (checkValue entry.2).events,
        .ok (entries, [])⟩ := by
  have noIssues : (entries.flatMap fun entry => (entryOutcome .ok .ok entry).issues) = [] :=
    List.flatMap_eq_nil_iff.mpr fun _ _ => rfl
  rw [sortLooseEntries_eq entries kept.keys (fun entry member _ => kept.values entry member)
      kept.canBeStored,
    pairsOf_ok, Value.ofPairs_of_hasDistinctKeys kept.distinct, noIssues]
  rfl

theorem recordOf_of_kept (kept : AreKept checkKey checkValue entries) :
    recordOf checkKey checkValue (.mapping entries) =
      ⟨entries.flatMap fun entry => (checkKey entry.1).events ++ (checkValue entry.2).events,
        .ok (.ok (.mapping entries))⟩ := by
  have stored := sortEntries_of_accepted kept.keys kept.values (fun entry _ => ⟨entry, rfl⟩)
    kept.canBeStored
  have foldEq := Value.ofPairs_of_hasDistinctKeys kept.distinct
  rw [pairsOf_ok] at stored
  simp only [recordOf, Value.entries?_mapping, stored]
  unfold Value.ofPairs at foldEq
  rw [foldEq]
  simp

theorem looseRecordOf_of_kept (kept : AreKept checkKey checkValue entries)
    (onError : Option Sink) :
    looseRecordOf checkKey checkValue onError (.mapping entries) =
      recordOf checkKey checkValue (.mapping entries) := by
  rw [recordOf_of_kept kept]
  exact looseRecordOf_untold (Value.entries?_mapping entries) (sortLooseEntries_of_kept kept)
    (.inr rfl)

end Entries

/-- Entries of a mapping whose keys and values pass unchanged. -/
structure KeepsEntries (key value : Validator) (entries : List (Value × Value)) : Prop where
  distinct : Value.HasDistinctKeys entries
  hashable : ∀ entry ∈ entries, entry.1.unhashable? = none
  keys : ∀ entry ∈ entries, key.Keeps entry.1
  values : ∀ entry ∈ entries, value.Keeps entry.2

section KeepsEntries

variable {key value : Validator} {entries : List (Value × Value)}

theorem AreStored.keepsEntries (stored : AreStored key.run value.run entries)
    (keys : ∀ accepted, IsAccepted key.run accepted → key.Keeps accepted)
    (values : ∀ accepted, IsAccepted value.run accepted → value.Keeps accepted) :
    KeepsEntries key value entries where
  distinct := stored.distinct
  hashable entry member := (stored.accepted entry member).1.1
  keys entry member := keys entry.1 (stored.accepted entry member).1.2
  values entry member := values entry.2 (stored.accepted entry member).2

theorem KeepsEntries.areKept (kept : KeepsEntries key value entries) :
    AreKept key.run value.run entries where
  distinct := kept.distinct
  hashable := kept.hashable
  keys entry member := (kept.keys entry member).accepted
  values entry member := (kept.values entry member).accepted

theorem KeepsEntries.areKept_recast (kept : KeepsEntries key value entries)
    (change : Option Sink → Option (Option Sink)) :
    AreKept (key.recast change).run (value.recast change).run entries where
  distinct := kept.distinct
  hashable := kept.hashable
  keys entry member := by
    rw [(kept.keys entry member).recast change, (kept.keys entry member).accepted]
  values entry member := by
    rw [(kept.values entry member).recast change, (kept.values entry member).accepted]

theorem recordOf_recast (kept : KeepsEntries key value entries)
    (change : Option Sink → Option (Option Sink)) :
    recordOf (key.recast change).run (value.recast change).run (.mapping entries) =
      recordOf key.run value.run (.mapping entries) := by
  rw [recordOf_of_kept (kept.areKept_recast change), recordOf_of_kept kept.areKept]
  congr 1
  refine List.flatMap_congr fun entry member => ?_
  rw [(kept.keys entry member).recast change, (kept.values entry member).recast change]

theorem record_keeps (kept : KeepsEntries key value entries) :
    (Validator.record value key).Keeps (.mapping entries) where
  accepted := by rw [run_record, recordOf_of_kept kept.areKept]
  recast change := recordOf_recast kept change
  untold := by
    intro callback context performs
    cases performs with
    | key mapping reached performs =>
        rw [Value.entries?_mapping] at mapping
        cases mapping
        exact (kept.keys _ (by simp)).untold callback context performs
    | value mapping reached keyAnswered performs =>
        rw [Value.entries?_mapping] at mapping
        cases mapping
        exact (kept.values _ (by simp)).untold callback context performs

theorem looseRecord_keeps (kept : KeepsEntries key value entries) (onError : Option Sink) :
    (Validator.looseRecord value key onError).Keeps (.mapping entries) where
  accepted := by
    rw [run_looseRecord, looseRecordOf_of_kept kept.areKept, recordOf_of_kept kept.areKept]
  recast change := by
    rw [run_looseRecord, looseRecordOf_of_kept kept.areKept, ← recordOf_recast kept change,
      Validator.recast]
    cases change onError with
    | none => rfl
    | some changed => rw [run_looseRecord, looseRecordOf_of_kept (kept.areKept_recast change)]
  untold := by
    intro callback context performs
    cases performs with
    | looseKey mapping reached performs =>
        rw [Value.entries?_mapping] at mapping
        cases mapping
        exact (kept.keys _ (by simp)).untold callback context performs
    | looseValue mapping reached keyAccepted performs =>
        rw [Value.entries?_mapping] at mapping
        cases mapping
        exact (kept.values _ (by simp)).untold callback context performs
    | toldOfEntries mapping sorted reports =>
        rw [Value.entries?_mapping] at mapping
        cases mapping
        rw [sortLooseEntries_of_kept kept.areKept] at sorted
        cases sorted
        exact reports rfl

end KeepsEntries

theorem notCircular_keeps {value : Value} (accepted : IsAccepted Validator.notCircular.run value) :
    Validator.notCircular.Keeps value := by
  obtain ⟨input, returned⟩ := accepted
  have same : value = input := by
    simp only [run, checkNotCircular] at returned
    split at returned <;> cases returned
    rfl
  subst same
  exact ⟨returned, fun _ => rfl, by rintro callback context ⟨⟩⟩

theorem refine_keeps {inner : Validator} {check : Value → Run Value} {message : String}
    {code : IssueCode} {fatal : Bool} {value : Value}
    (accepted : IsAccepted (Validator.refine inner check message code fatal).run value)
    (innerKeeps : IsAccepted inner.run value → inner.Keeps value) :
    (Validator.refine inner check message code fatal).Keeps value := by
  obtain ⟨input, returned⟩ := accepted
  rw [run_refine] at returned
  obtain ⟨verdict, innerReturned, passed⟩ := Effect.bind_outcome_eq_ok.mp returned
  cases verdict with
  | err failure => cases passed
  | ok innerValue =>
      have same := applyCheck_accepted passed
      subst same
      have kept := innerKeeps ⟨input, innerReturned⟩
      refine ⟨?_, ?_, ?_⟩
      · rw [run_refine]
        exact Effect.bind_outcome_eq_ok.mpr ⟨_, kept.accepted, passed⟩
      · intro change
        rw [Validator.recast, run_refine, run_refine, kept.recast change]
      · intro callback context performs
        cases performs with
        | refined performs => exact kept.untold callback context performs

theorem IsSelective.keeps {schema : Validator} (selective : IsSelective schema) {value : Value}
    (accepted : IsAccepted schema.run value) : schema.Keeps value := by
  induction selective generalizing value with
  | leaf leaf => exact leaf.keeps accepted
  | notCircular => exact notCircular_keeps accepted
  | refine _ ih => exact refine_keeps accepted ih
  | array _ ih =>
      obtain ⟨input, returned⟩ := accepted
      obtain ⟨items, rfl, itemsAccepted⟩ := arrayOf_accepted returned
      exact array_keeps fun item member => ih (itemsAccepted item member)
  | looseArray _ ih =>
      obtain ⟨input, returned⟩ := accepted
      obtain ⟨items, rfl, itemsAccepted⟩ := looseArrayOf_accepted returned
      exact looseArray_keeps (fun item member => ih (itemsAccepted item member)) _
  | record _ leaf ih =>
      obtain ⟨input, returned⟩ := accepted
      obtain ⟨entries, rfl, stored⟩ := recordOf_accepted returned
      exact record_keeps (stored.keepsEntries (fun _ => leaf.keeps) fun _ => ih)
  | looseRecord _ leaf ih =>
      obtain ⟨input, returned⟩ := accepted
      obtain ⟨entries, rfl, stored⟩ := looseRecordOf_accepted returned
      exact looseRecord_keeps (stored.keepsEntries (fun _ => leaf.keeps) fun _ => ih) _

end Validator

/-- What a selective schema accepts is accepted again, unchanged, by the schema and by its strict
twin. That run tells no callback anything, and would be the same with any other callbacks. -/
theorem accepted_conforms_strictly {schema : Validator} (selective : schema.IsSelective)
    {input result : Value} (returned : (schema.run input).outcome = .ok (.ok result)) :
    (schema.run result).outcome = .ok (.ok result) ∧
    (schema.strictTwin.run result).outcome = .ok (.ok result) ∧
    (∀ callback context, ¬ schema.Performs result (.sink callback context)) ∧
    ∀ change : Option Sink → Option Sink,
      (schema.recast fun onError => some (change onError)).run result = schema.run result := by
  have kept := selective.keeps ⟨input, returned⟩
  refine ⟨kept.accepted, ?_, kept.untold, fun change => kept.recast _⟩
  rw [Validator.strictTwin, kept.recast, kept.accepted]

/-- Of a tuple with a mapping and a null, one entry of the mapping is kept. -/
theorem accepted_conforms_strictly_of_nested_collections :
    let callback : Sink := fun context => do
      Effect.emit (.reported "dropped" context.failure context.input)
      pure .null
    let entry := Validator.looseRecord .integer (.string none none) (some callback)
    let schema := Validator.refine (.looseArray entry (some callback)) (Function.hasLength 1)
      "nothing left" .invalidValue false
    let input := Value.tuple
      [.mapping [(.text "a", .int 1), (.int 2, .int 3), (.text "b", .text "x")], .null]
    let result := Value.list [.mapping [(.text "a", .int 1)]]
    (schema.run input).outcome = .ok (.ok result) ∧
    (schema.run result).outcome = .ok (.ok result) ∧
    (schema.strictTwin.run result).outcome = .ok (.ok result) ∧
    (∀ callback context, ¬ schema.Performs result (.sink callback context)) ∧
    ∀ change : Option Sink → Option Sink,
      (schema.recast fun onError => some (change onError)).run result = schema.run result := by
  intro callback entry schema input result
  have returned : (schema.run input).outcome = .ok (.ok result) := rfl
  exact ⟨returned, accepted_conforms_strictly
    (.refine (.looseArray (.looseRecord (.leaf .integer) .string))) returned⟩

end TolerantValidation
