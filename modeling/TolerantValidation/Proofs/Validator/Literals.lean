import TolerantValidation.Proofs.Validator.Rejections

/-!
When schemas of leaves answer. Only a literal can keep them from it, one that cannot be compared
with the value it meets or be written beside it.
-/

namespace TolerantValidation

theorem ofText_answers_iff {Shown : Type} {result : Except TextFault Shown} :
    (Run.ofText result).Answers ↔ IsWritten result := by
  constructor
  · rintro ⟨shown, answered⟩
    cases result with
    | error fault => cases answered
    | ok written => exact isWritten_ok written
  · exact Validator.ofText_answers

namespace Validator

/-- A literal and a value can be compared and, where they differ, both be written. -/
def CanTell (expected given : Value) : Prop :=
  ∃ equal, given.equal? expected = some equal ∧
    ((equal && given.sameType expected) = false →
      IsWritten expected.notationText ∧ IsWritten given.notationText)

/-- The walk of the schema through the input gets to a leaf on a value. -/
inductive Meets : Validator → Value → Validator → Value → Prop
  | leaf {validator input} : IsLeaf validator → Meets validator input validator input
  | item {element input items item leaf given} : input.sequence? = some items → item ∈ items →
      Meets element item leaf given → Meets (.array element) input leaf given
  | key {value key input entries entry leaf given} : input.entries? = some entries →
      entry ∈ entries → Meets key entry.1 leaf given → Meets (.record value key) input leaf given
  | value {value key input entries entry leaf given} : input.entries? = some entries →
      entry ∈ entries → Meets value entry.2 leaf given →
      Meets (.record value key) input leaf given

/-- Every literal that the walk gets to can be told from the value there. -/
def TellsLiterals (schema : Validator) (input : Value) : Prop :=
  ∀ expected given, schema.Meets input (.literal expected) given → CanTell expected given

theorem checkLiteral_answers_iff {expected given : Value} :
    (checkLiteral expected given).Answers ↔ CanTell expected given := by
  unfold CanTell
  cases compared : given.equal? expected with
  | none =>
      simp only [checkLiteral, compared]
      constructor
      · rintro ⟨verdict, ⟨⟩⟩
      · rintro ⟨equal, ⟨⟩, _⟩
  | some equal =>
      simp only [checkLiteral, compared]
      cases same : equal && given.sameType expected with
      | true =>
          constructor
          · intro _
            exact ⟨equal, rfl, by simp [same]⟩
          · intro _
            exact Effect.pure_answers _
      | false =>
          constructor
          · rintro ⟨verdict, returned⟩
            obtain ⟨wanted, wantedShown, returned⟩ := Effect.bind_outcome_eq_ok.mp returned
            obtain ⟨shown, givenShown, _⟩ := Effect.bind_outcome_eq_ok.mp returned
            exact ⟨equal, rfl, fun _ => ⟨ofText_answers_iff.mp ⟨wanted, wantedShown⟩,
              ofText_answers_iff.mp ⟨shown, givenShown⟩⟩⟩
          · rintro ⟨_, ⟨⟩, writes⟩
            obtain ⟨wantedWritten, givenWritten⟩ := writes same
            obtain ⟨wanted, wantedShown⟩ := ofText_answers wantedWritten
            obtain ⟨shown, givenShown⟩ := ofText_answers givenWritten
            refine Effect.bind_answers.mpr ⟨wanted, wantedShown, ?_⟩
            exact Effect.bind_answers.mpr ⟨shown, givenShown, Effect.pure_answers _⟩

theorem checkLiteral_of_unwritable {expected given : Value} {shown : String} {fault : TextFault}
    (differs : given.equal? expected = some false) (written : expected.notationText = .ok shown)
    (unwritable : given.notationText = .error fault) :
    checkLiteral expected given = ⟨[], .error (.text fault)⟩ := by
  simp only [checkLiteral, differs, written, unwritable]
  rfl

theorem leaf_meets_iff {validator leaf : Validator} (isLeaf : IsLeaf validator)
    {input given : Value} :
    validator.Meets input leaf given ↔ leaf = validator ∧ given = input := by
  constructor
  · intro meets
    cases isLeaf <;> cases meets <;> exact ⟨rfl, rfl⟩
  · rintro ⟨rfl, rfl⟩
    exact .leaf isLeaf

theorem array_tellsLiterals_iff {element : Validator} {input : Value} :
    (Validator.array element).TellsLiterals input ↔
      ∀ items, input.sequence? = some items → ∀ item ∈ items, element.TellsLiterals item := by
  constructor
  · intro tells items sequence item member expected given meets
    exact tells expected given (.item sequence member meets)
  · intro tells expected given meets
    generalize leafEq : Validator.literal expected = leaf at meets
    cases meets with
    | leaf leaf => cases leaf
    | item sequence member meets =>
        cases leafEq
        exact tells _ sequence _ member expected given meets

theorem record_tellsLiterals_iff {value key : Validator} {input : Value} :
    (Validator.record value key).TellsLiterals input ↔
      ∀ entries, input.entries? = some entries → ∀ entry ∈ entries,
        key.TellsLiterals entry.1 ∧ value.TellsLiterals entry.2 := by
  constructor
  · intro tells entries mapping entry member
    constructor
    · intro expected given meets
      exact tells expected given (.key mapping member meets)
    · intro expected given meets
      exact tells expected given (.value mapping member meets)
  · intro tells expected given meets
    generalize leafEq : Validator.literal expected = leaf at meets
    cases meets with
    | leaf leaf => cases leaf
    | key mapping member meets =>
        cases leafEq
        exact (tells _ mapping _ member).1 expected given meets
    | value mapping member meets =>
        cases leafEq
        exact (tells _ mapping _ member).2 expected given meets

theorem IsLeaf.answers_iff {validator : Validator} (leaf : IsLeaf validator) {input : Value} :
    (validator.run input).Answers ↔ validator.TellsLiterals input := by
  simp only [TellsLiterals, leaf_meets_iff leaf]
  cases leaf with
  | literal =>
      rw [run, checkLiteral_answers_iff]
      constructor
      · rintro tells _ _ ⟨⟨⟩, rfl⟩
        exact tells
      · intro tells
        exact tells _ _ ⟨rfl, rfl⟩
  | _ => exact ⟨fun _ _ _ met => (by cases met.1), fun _ => Effect.pure_answers _⟩

theorem IsLeaf.acceptedKeys_sublist {key : Validator} (leaf : IsLeaf key)
    (valueVerdict : Value → Verdict) {entries : List (Value × Value)}
    (answers : ∀ entry ∈ entries, (key.run entry.1).Answers) :
    ((pairsOf (verdictOf key.run) valueVerdict entries).map Prod.fst).Sublist
      (entries.map Prod.fst) := by
  induction entries with
  | nil => exact .slnil
  | cons entry rest ih =>
      rw [List.forall_mem_cons] at answers
      have restKept := ih answers.2
      have returned := outcome_eq_verdictOf answers.1
      simp only [pairsOf_cons, entryOutcome]
      cases keyEq : verdictOf key.run entry.1 with
      | err failure => exact restKept.cons _
      | ok accepted =>
          rw [keyEq] at returned
          cases valueVerdict entry.2 with
          | err failure => exact restKept.cons _
          | ok value =>
              rw [leaf.accepted_eq returned]
              exact restKept.cons_cons _

theorem IsLeaf.canBeStored {key : Validator} (leaf : IsLeaf key) (valueVerdict : Value → Verdict)
    {entries : List (Value × Value)} (answers : ∀ entry ∈ entries, (key.run entry.1).Answers)
    (hashable : ∀ entry ∈ entries, entry.1.unhashable? = none)
    (distinct : Value.HasDistinctKeys entries) :
    Value.CanBeStored [] (pairsOf (verdictOf key.run) valueVerdict entries) := by
  have kept := leaf.acceptedKeys_sublist valueVerdict answers
  apply Value.HasDistinctKeys.canBeStored (distinct.sublist kept)
  intro pair member
  obtain ⟨entry, inside, same⟩ := List.mem_map.mp (kept.subset (List.mem_map_of_mem member))
  rw [← same]
  exact hashable entry inside

theorem array_answers_iff {element : Validator} {input : Value} :
    ((Validator.array element).run input).Answers ↔
      ∀ items, input.sequence? = some items → ∀ item ∈ items, (element.run item).Answers := by
  rw [run_array]
  cases sequence : input.sequence? with
  | none =>
      simp only [arrayOf, sequence]
      exact ⟨fun _ _ none => (by cases none), fun _ => Effect.pure_answers _⟩
  | some items =>
      rw [arrayOf_answers_iff sequence]
      simp

theorem sortEntries_answers_iff {key : Validator} (leaf : IsLeaf key) {value : Validator}
    {entries : List (Value × Value)} (hashable : ∀ entry ∈ entries, entry.1.unhashable? = none)
    (distinct : Value.HasDistinctKeys entries) :
    (sortEntries key.run value.run [] [] entries).Answers ↔
      ∀ entry ∈ entries, (key.run entry.1).Answers ∧ (value.run entry.2).Answers := by
  constructor
  · rintro ⟨final, returned⟩
    exact sortEntries_answered returned
  · intro answers
    apply sortEntries_returns
    · exact fun entry member => outcome_eq_verdictOf (answers entry member).1
    · exact fun entry member => outcome_eq_verdictOf (answers entry member).2
    · exact leaf.canBeStored _ (fun entry member => (answers entry member).1) hashable distinct

theorem record_answers_iff {key : Validator} (leaf : IsLeaf key) {value : Validator} {input : Value}
    (proper : input.HasProperKeys) :
    ((Validator.record value key).run input).Answers ↔
      ∀ entries, input.entries? = some entries → ∀ entry ∈ entries,
        (key.run entry.1).Answers ∧ (value.run entry.2).Answers := by
  rw [run_record]
  cases mapping : input.entries? with
  | none =>
      simp only [recordOf, mapping]
      exact ⟨fun _ _ none => (by cases none), fun _ => Effect.pure_answers _⟩
  | some entries =>
      simp only [recordOf, mapping]
      obtain ⟨hashable, distinct, _⟩ := proper [] _ _ .here mapping
      rw [Effect.bind_pure_answers, sortEntries_answers_iff leaf hashable distinct]
      simp

/-- With proper keys a schema of leaves answers exactly where it can tell the literals it meets. -/
theorem IsPlain.answers_iff {schema : Validator} (plain : IsPlain schema) {input : Value}
    (proper : input.HasProperKeys) : (schema.run input).Answers ↔ schema.TellsLiterals input := by
  induction plain generalizing input with
  | leaf leaf => exact leaf.answers_iff
  | array _ ih =>
      rw [array_answers_iff, array_tellsLiterals_iff]
      refine forall₂_congr fun items sequence => forall₂_congr fun item member => ?_
      exact ih (proper.item sequence member)
  | record _ leaf ih =>
      rw [record_answers_iff leaf proper, record_tellsLiterals_iff]
      refine forall₂_congr fun entries mapping => forall₂_congr fun entry member => ?_
      rw [leaf.answers_iff, ih (proper.held mapping member)]

theorem looseArray_answers_iff {element : Validator} {input : Value} :
    ((Validator.looseArray element none).run input).Answers ↔
      ((Validator.array element).run input).Answers := by
  rw [run_looseArray, run_array]
  cases sequence : input.sequence? with
  | none => simp only [looseArrayOf, arrayOf, sequence]
  | some items => rw [looseArrayOf_answers_iff sequence, arrayOf_answers_iff sequence]

/-- A tolerant mapping can tell the literals it meets: in keys, and in values with accepted keys. -/
def TellsReadLiterals (value key : Validator) (input : Value) : Prop :=
  ∀ entries, input.entries? = some entries → ∀ entry ∈ entries,
    key.TellsLiterals entry.1 ∧
      ((verdictOf key.run entry.1).isOk = true → value.TellsLiterals entry.2)

theorem sortLooseEntries_answers_iff {key : Validator} (leaf : IsLeaf key) {value : Validator}
    {entries : List (Value × Value)} (hashable : ∀ entry ∈ entries, entry.1.unhashable? = none)
    (distinct : Value.HasDistinctKeys entries) :
    (sortLooseEntries key.run value.run [] [] entries).Answers ↔
      ∀ entry ∈ entries, (key.run entry.1).Answers ∧
        ((verdictOf key.run entry.1).isOk = true → (value.run entry.2).Answers) := by
  constructor
  · rintro ⟨final, returned⟩
    exact (sortLooseEntries_returned returned).1
  · intro answers
    rw [sortLooseEntries_eq entries
      (fun entry member => outcome_eq_verdictOf (answers entry member).1)
      (fun entry member accepted => outcome_eq_verdictOf ((answers entry member).2 accepted))]
    · exact ⟨_, rfl⟩
    · exact leaf.canBeStored _ (fun entry member => (answers entry member).1) hashable distinct

theorem looseRecord_answers_iff {value key : Validator} (plain : IsPlain value) (leaf : IsLeaf key)
    {input : Value} (proper : input.HasProperKeys) :
    ((Validator.looseRecord value key none).run input).Answers ↔
      TellsReadLiterals value key input := by
  rw [run_looseRecord]
  unfold TellsReadLiterals
  cases mapping : input.entries? with
  | none =>
      simp only [looseRecordOf, mapping]
      exact ⟨fun _ _ none => (by cases none), fun _ => Effect.pure_answers _⟩
  | some entries =>
      simp only [looseRecordOf, mapping, keepEntries_eq_sortLooseEntries [] [] entries, bind_assoc,
        pure_bind, Option.some.injEq, forall_eq']
      obtain ⟨hashable, distinct, _⟩ := proper [] _ _ .here mapping
      rw [Effect.bind_pure_answers, sortLooseEntries_answers_iff leaf hashable distinct]
      refine forall₂_congr fun entry member => ?_
      rw [leaf.answers_iff, plain.answers_iff (proper.held mapping member)]

end Validator
end TolerantValidation
