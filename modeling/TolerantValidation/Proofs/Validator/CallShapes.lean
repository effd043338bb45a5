import TolerantValidation.Proofs.Validator.Conservation
import TolerantValidation.Validator.CallShape

/-!
Tolerant mappings that are built from a call. A call that names its options in one of the two shapes
that have them gets a mapping that tells the callback of what it drops. Options behind nothing are
no such shape: they are lost.
-/

namespace TolerantValidation

/-- The argument is given as options, with this callback. -/
inductive LooseArgument.GivesOptions : LooseArgument → Option Sink → Prop
  | options (onError : Option Sink) : GivesOptions (.options onError) onError
  | mapping (onError : Option Sink) : GivesOptions (.mapping onError) onError
  | value {given : Value} {entries : List (Value × Value)} : given.entries? = some entries →
      GivesOptions (.value given) ((Value.get? (.text "on_error") entries).bind callbackOf)

namespace LooseRecord

/-- What the shape of a call says: the validators of keys and of values, and the callback. -/
inductive Resolves (first : Validator) :
    LooseArgument → LooseArgument → Validator → Validator → Option Sink → Prop
  | keyValueOptions {value third onError} : third.GivesOptions onError →
      Resolves first (.validator value) third first value onError
  | valueOptions {second onError} : second.GivesOptions onError →
      Resolves first second (.value .null) .unknown first onError

theorem onError_of_givesOptions {argument : LooseArgument} {onError : Option Sink}
    (options : argument.GivesOptions onError) :
    argument.isGiven = true ∧ argument.onError = .ok onError := by
  cases options with
  | options => exact ⟨rfl, rfl⟩
  | mapping => exact ⟨rfl, rfl⟩
  | @value given entries mapping =>
      have notNull : given ≠ .null := by
        rintro rfl
        cases mapping
      constructor
      · simp [LooseArgument.isGiven, notNull]
      · simp [LooseArgument.onError, mapping]

theorem ofArguments_of_resolves {first key value : Validator} {second third : LooseArgument}
    {onError : Option Sink} (resolves : Resolves first second third key value onError) :
    ofArguments (.validator first) second third =
      .ok ⟨.validator key, .validator value, onError⟩ := by
  cases resolves with
  | keyValueOptions options =>
      obtain ⟨given, onErrorEq⟩ := onError_of_givesOptions options
      simp only [ofArguments, given, onErrorEq]
      rfl
  | valueOptions options =>
      obtain ⟨given, onErrorEq⟩ := onError_of_givesOptions options
      cases options with
      | options => rfl
      | mapping => rfl
      | value mapping =>
          simp only [ofArguments, given, onErrorEq]
          rfl

theorem ofArguments_of_nothing (first third : LooseArgument) :
    ofArguments first (.value .null) third = .ok ⟨.validator .unknown, first, none⟩ := rfl

theorem run_of_resolves {first key value : Validator} {second third : LooseArgument}
    {onError : Option Sink} (resolves : Resolves first second third key value onError) :
    ∃ record, ofArguments (.validator first) second third = .ok record ∧
      ∀ input, record.run input = (Validator.looseRecord value key onError).run input :=
  ⟨_, ofArguments_of_resolves resolves, fun _ => rfl⟩

end LooseRecord

namespace Validator

variable {key value : Validator} {entries : List (Value × Value)}

/-- What is told about the entries: nothing if none is refused, else one thing, the issues of the
refused ones in order. -/
def toldOfRefused (key value : Validator) (entries : List (Value × Value)) (input : Value) :
    List FailureContext :=
  if (refusedEntries key value entries).isEmpty then []
  else [⟨{ issues := entries.flatMap fun entry =>
    (entryOutcome (verdictOf key.run) (verdictOf value.run) entry).issues }, input⟩]

theorem refusedEntries_eq_nil_iff {stored : List (Value × Value)} {issues : List Issue}
    (sorted : (sortLooseEntries key.run value.run [] [] entries).outcome = .ok (stored, issues)) :
    refusedEntries key value entries = [] ↔ issues = [] := by
  obtain ⟨answers, _, finalEq⟩ := sortLooseEntries_returned sorted
  cases finalEq
  simp only [refusedEntries, List.filter_eq_nil_iff, List.flatMap_eq_nil_iff]
  refine forall₂_congr fun entry member => ?_
  obtain ⟨keyAnswers, valueAnswers⟩ := answers entry member
  cases outcomeEq : entryOutcome (verdictOf key.run) (verdictOf value.run) entry with
  | ok pair => exact ⟨fun _ => rfl, fun _ => Bool.false_ne_true⟩
  | err failure =>
      have reports := entryOutcome_reported (outcome_verdictOf_reported key keyAnswers)
        (fun accepted => outcome_verdictOf_reported value (valueAnswers accepted)) outcomeEq
      exact ⟨fun isOk => absurd rfl isOk, fun none => absurd none reports⟩

theorem toldOfRefused_eq {stored : List (Value × Value)} {issues : List Issue}
    (sorted : (sortLooseEntries key.run value.run [] [] entries).outcome = .ok (stored, issues))
    (input : Value) : toldOfRefused key value entries input = toldOf issues input := by
  have issuesEq : issues = entries.flatMap fun entry =>
      (entryOutcome (verdictOf key.run) (verdictOf value.run) entry).issues :=
    congrArg Prod.snd (sortLooseEntries_returned sorted).2.2
  simp only [toldOfRefused, toldOf, List.isEmpty_iff, refusedEntries_eq_nil_iff sorted, ← issuesEq]

/-- A tolerant mapping stops where the one without a callback stops. Where that one answers, it goes
on to tell the callback once, if an entry was refused, and accepts the same. -/
theorem looseRecord_run_of_mapping (key value : Validator) (callback : Sink) {input : Value}
    (mapping : input.entries? = some entries) :
    let plain := (Validator.looseRecord value key none).run input
    let run := (Validator.looseRecord value key (some callback)).run input
    (∀ fault, plain.outcome = .error fault → run = plain) ∧
    ∀ verdict, plain.outcome = .ok verdict →
      verdict = .ok (.mapping (Value.ofPairs (acceptedPairs key value entries))) ∧
      run = (do
        (⟨plain.events, .ok ()⟩ : Run Unit)
        handTo callback (toldOfRefused key value entries input)
        pure verdict) := by
  intro plain run
  have plainEq : plain = sortLooseEntries key.run value.run [] [] entries >>= fun sorted =>
      pure (.ok (.mapping sorted.1)) := by
    simp only [plain, run_looseRecord, looseRecordOf, mapping,
      keepEntries_eq_sortLooseEntries [] [] entries, bind_assoc, pure_bind]
  have runEq : run = (do
      let sorted ← sortLooseEntries key.run value.run [] [] entries
      tell callback sorted.2 input
      pure (.ok (.mapping sorted.1))) := by
    simp only [run, run_looseRecord, looseRecordOf, mapping]
  cases sorted : (sortLooseEntries key.run value.run [] [] entries).outcome with
  | error fault =>
      rw [plainEq, runEq, Effect.bind_error sorted, Effect.bind_error sorted]
      refine ⟨fun _ _ => rfl, ?_⟩
      rintro _ ⟨⟩
  | ok final =>
      obtain ⟨stored, issues⟩ := final
      have storedEq : stored = Value.ofPairs (acceptedPairs key value entries) :=
        congrArg Prod.fst (sortLooseEntries_returned sorted).2.2
      rw [plainEq, runEq, Effect.bind_ok sorted, Effect.bind_ok sorted]
      constructor
      · rintro _ ⟨⟩
      rintro _ ⟨⟩
      refine ⟨by rw [storedEq], ?_⟩
      simp only [toldOfRefused_eq sorted, tell_eq_handTo, Effect.pure_events, List.append_nil]
      rfl

end Validator

/-- A call with options in the second place, or in the third behind a validator, returns a mapping
that tells their callback once on each input of which it drops an entry, and on no other. It accepts
the pairs of validated keys and values, under the validators that the shape of the call names. Where
a validator or a key stops the run, the callback is not told. -/
theorem loose_record_tells_its_options {first key value : Validator}
    {second third : LooseArgument} {callback : Sink}
    (resolves : LooseRecord.Resolves first second third key value (some callback)) :
    ∃ record, LooseRecord.ofArguments (.validator first) second third = .ok record ∧
      ∀ input entries, input.entries? = some entries →
        let plain := (Validator.looseRecord value key none).run input
        (∀ fault, plain.outcome = .error fault → record.run input = plain) ∧
        ∀ verdict, plain.outcome = .ok verdict →
          verdict = .ok (.mapping (Value.ofPairs (Validator.acceptedPairs key value entries))) ∧
          record.run input = (do
            (⟨plain.events, .ok ()⟩ : Run Unit)
            handTo callback (Validator.toldOfRefused key value entries input)
            pure verdict) := by
  obtain ⟨record, built, runs⟩ := LooseRecord.run_of_resolves resolves
  refine ⟨record, built, ?_⟩
  intro input entries mapping
  rw [runs]
  exact Validator.looseRecord_run_of_mapping key value callback mapping

/-- A key in lower case whose value is dropped, by a call with all three arguments. -/
theorem loose_record_tells_its_options_of_dropped_value :
    let callback : Sink := fun context => do
      Effect.emit (.reported "dropped" context.failure context.input)
      pure .null
    let key := Validator.map (.string none none) Function.upperCase
    let input := Value.mapping [(.text "a", .int 1), (.text "b", .text "x")]
    let issue : Issue :=
      { code := .invalidType, message := "Expected integer, got str", path := [.text "b"] }
    ∃ record, LooseRecord.ofArguments (.validator key) (.validator .integer)
        (.options (some callback)) = .ok record ∧
      record.run input =
        ⟨[.reported "dropped" { issues := [issue] } input],
          .ok (.ok (.mapping [(.text "A", .int 1)]))⟩ := by
  intro callback key input issue
  have resolves : LooseRecord.Resolves key (.validator .integer) (.options (some callback)) key
      .integer (some callback) := .keyValueOptions (.options (some callback))
  obtain ⟨record, built, runs⟩ := loose_record_tells_its_options resolves
  refine ⟨record, built, ?_⟩
  exact ((runs input _ (Value.entries?_mapping _)).2 _ rfl).2

/-- A mapping with a callback behind nothing: the value that is dropped is told to nobody. -/
theorem loose_record_loses_options_behind_nothing :
    let callback : Sink := fun context => do
      Effect.emit (.reported "dropped" context.failure context.input)
      pure .null
    let entries := [(.text "a", .int 1), (.text "b", .text "x")]
    ∃ record, LooseRecord.ofArguments (.validator .integer) (.value .null)
        (.mapping (some callback)) = .ok record ∧
      (Validator.refusedEntries .unknown .integer entries).length = 1 ∧
      record.run (.mapping entries) = ⟨[], .ok (.ok (.mapping [(.text "a", .int 1)]))⟩ := by
  intro callback entries
  exact ⟨_, LooseRecord.ofArguments_of_nothing _ _, rfl, rfl⟩

end TolerantValidation
