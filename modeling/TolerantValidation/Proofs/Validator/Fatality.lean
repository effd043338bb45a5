import TolerantValidation.Proofs.Validator.Action
import TolerantValidation.Proofs.Value.Nesting

/-!
Fatal failures. Without tolerant collections a fatal failure of any part that a run gets to ends up
as a fatal failure of the whole, and no chain of combinators on top of a fatal failure does
anything.
-/

namespace TolerantValidation

def Verdict.IsFatal (verdict : Verdict) : Prop :=
  ∃ failure, verdict = .err failure ∧ failure.isFatal = true

theorem FailureAt.isFatal_iff (failure : Failure) :
    failure.isFatal = true ↔ ∃ issue ∈ failure.issues, issue.fatal = true := by
  simp [FailureAt.isFatal]

theorem FailureAt.isFatal_of_issuesBelow {failure : Failure} (segment : Value) {issues : List Issue}
    (fatal : failure.isFatal = true)
    (reported : ∀ issue ∈ Verdict.issuesBelow segment (.err failure), issue ∈ issues) :
    ∃ issue ∈ issues, issue.fatal = true := by
  obtain ⟨issue, member, isFatal⟩ := (FailureAt.isFatal_iff failure).mp fatal
  exact ⟨issue.below segment, reported _ (List.mem_map_of_mem member), isFatal⟩

/-- The action is the run of a part that is refused fatally. -/
def Action.RefusesFatally : Action → Prop
  | .part validator input =>
    ∃ verdict, (validator.run input).outcome = .ok verdict ∧ verdict.IsFatal
  | _ => False

namespace Validator

def IsStrict : Validator → Prop
  | .transform inner _ | .refine inner _ _ _ _ | .fallback inner _ | .array inner => inner.IsStrict
  | .pipe first second => first.IsStrict ∧ second.IsStrict
  | .record value key => value.IsStrict ∧ key.IsStrict
  | .looseArray _ _ | .looseRecord _ _ _ => False
  | _ => True

theorem isFatal_of_chained {first : Run Verdict} {next : Value → Run Verdict} {verdict : Verdict}
    (returned : (first >>= fun verdict => verdict.andThen next).outcome = .ok verdict)
    (fatal : ∀ earlier, first.outcome = .ok earlier → earlier.IsFatal) : verdict.IsFatal := by
  obtain ⟨earlier, firstReturned, returned⟩ := Effect.bind_outcome_eq_ok.mp returned
  obtain ⟨failure, rfl, isFatal⟩ := fatal earlier firstReturned
  cases returned
  exact ⟨failure, rfl, isFatal⟩

theorem isFatal_of_fallback {inner : Validator} {sink : Sink} {input : Value} {verdict : Verdict}
    (returned : ((Validator.fallback inner sink).run input).outcome = .ok verdict)
    (fatal : ∀ earlier, (inner.run input).outcome = .ok earlier → earlier.IsFatal) :
    verdict.IsFatal := by
  rw [run_fallback] at returned
  obtain ⟨earlier, innerReturned, returned⟩ := Effect.bind_outcome_eq_ok.mp returned
  obtain ⟨failure, rfl, isFatal⟩ := fatal earlier innerReturned
  simp only [recover, isFatal, if_true] at returned
  cases returned
  exact ⟨failure, rfl, isFatal⟩

theorem isFatal_of_item {check : Value → Run Verdict} {input item : Value} {items : List Value}
    {verdict : Verdict} (sequence : input.sequence? = some items) (member : item ∈ items)
    (returned : (arrayOf check input).outcome = .ok verdict)
    (fatal : ∀ earlier, (check item).outcome = .ok earlier → earlier.IsFatal) :
    verdict.IsFatal := by
  simp only [arrayOf, sequence] at returned
  obtain ⟨sorted, sortReturned, returned⟩ := Effect.bind_outcome_eq_ok.mp returned
  obtain ⟨verdictOf, answered⟩ :=
    exists_verdicts ((sortItems_answers_iff 0 items).mp ⟨sorted, sortReturned⟩)
  rw [sortItems_eq 0 items answered] at sortReturned
  cases sortReturned
  obtain ⟨failure, refused, isFatal⟩ := fatal _ (answered item member)
  obtain ⟨position, bound, itemEq⟩ := List.mem_iff_getElem.mp member
  have place : (item, position) ∈ items.zipIdx 0 := by
    rw [List.mem_zipIdx_iff_getElem?]
    simp [itemEq, bound]
  have found : ∃ issue ∈ (items.zipIdx 0).flatMap fun place =>
      (verdictOf place.1).issuesBelow (.int place.2), issue.fatal = true := by
    apply FailureAt.isFatal_of_issuesBelow (.int position) isFatal
    intro issue raised
    exact List.mem_flatMap.mpr ⟨_, place, by rwa [refused]⟩
  obtain ⟨issue, reported, issueFatal⟩ := found
  simp only [List.isEmpty_iff, List.ne_nil_of_mem reported, if_false] at returned
  cases returned
  exact ⟨_, rfl, (FailureAt.isFatal_iff _).mpr ⟨issue, reported, issueFatal⟩⟩

theorem isFatal_of_entry {checkKey checkValue : Value → Run Verdict} {input : Value}
    {entry : Value × Value} {entries : List (Value × Value)} {verdict : Verdict}
    (mapping : input.entries? = some entries) (member : entry ∈ entries)
    (returned : (recordOf checkKey checkValue input).outcome = .ok verdict)
    (fatal : (∀ earlier, (checkKey entry.1).outcome = .ok earlier → earlier.IsFatal) ∨
      ∀ earlier, (checkValue entry.2).outcome = .ok earlier → earlier.IsFatal) :
    verdict.IsFatal := by
  simp only [recordOf, mapping] at returned
  obtain ⟨⟨stored, issues⟩, sortReturned, returned⟩ := Effect.bind_outcome_eq_ok.mp returned
  have answers := sortEntries_answered sortReturned
  have keyParts : ∀ part ∈ entries.map Prod.fst, (checkKey part).Answers := by
    simpa using fun key value inside => (answers (key, value) inside).1
  have valueParts : ∀ part ∈ entries.map Prod.snd, (checkValue part).Answers := by
    simpa using fun value key inside => (answers (key, value) inside).2
  obtain ⟨keyVerdict, keys⟩ := exists_verdicts keyParts
  obtain ⟨valueVerdict, values⟩ := exists_verdicts valueParts
  have keys : ∀ entry ∈ entries, (checkKey entry.1).outcome = .ok (keyVerdict entry.1) :=
    fun entry inside => keys _ (List.mem_map_of_mem inside)
  have values : ∀ entry ∈ entries, (checkValue entry.2).outcome = .ok (valueVerdict entry.2) :=
    fun entry inside => values _ (List.mem_map_of_mem inside)
  have issuesEq := sortEntries_issues sortReturned keys values
  simp only [List.nil_append] at issuesEq
  have found : ∃ issue ∈ issues, issue.fatal = true := by
    rcases fatal with fatal | fatal
    · obtain ⟨failure, refused, isFatal⟩ := fatal _ (keys entry member)
      apply FailureAt.isFatal_of_issuesBelow entry.1 isFatal
      intro issue raised
      rw [issuesEq]
      exact List.mem_flatMap.mpr ⟨entry, member, List.mem_append_left _ (by rwa [refused])⟩
    · obtain ⟨failure, refused, isFatal⟩ := fatal _ (values entry member)
      apply FailureAt.isFatal_of_issuesBelow entry.1 isFatal
      intro issue raised
      rw [issuesEq]
      exact List.mem_flatMap.mpr ⟨entry, member, List.mem_append_right _ (by rwa [refused])⟩
  obtain ⟨issue, reported, issueFatal⟩ := found
  simp only [List.isEmpty_iff, List.ne_nil_of_mem reported, if_false] at returned
  cases returned
  exact ⟨_, rfl, (FailureAt.isFatal_iff _).mpr ⟨issue, reported, issueFatal⟩⟩

theorem isFatal_of_performs {validator : Validator} {input : Value} {action : Action}
    (performs : Performs validator input action) (refused : action.RefusesFatally)
    (strict : validator.IsStrict) {verdict : Verdict}
    (returned : (validator.run input).outcome = .ok verdict) : verdict.IsFatal := by
  -- On how the run gets to the part: every constructor on the way hands the fatal issue on.
  induction performs generalizing verdict with
  | self =>
      obtain ⟨partVerdict, partReturned, fatal⟩ := refused
      rw [returned] at partReturned
      cases partReturned
      exact fatal
  | transformed _ ih =>
      rw [run_transform] at returned
      exact isFatal_of_chained returned fun earlier => ih refused strict
  | first _ ih =>
      rw [run_pipe] at returned
      exact isFatal_of_chained returned fun earlier => ih refused strict.1
  | second accepted _ ih =>
      rw [run_pipe, Effect.bind_ok accepted] at returned
      exact ih refused strict.2 returned
  | refined _ ih =>
      rw [run_refine] at returned
      exact isFatal_of_chained returned fun earlier => ih refused strict
  | recovered _ ih => exact isFatal_of_fallback returned fun earlier => ih refused strict
  | item sequence _ _ ih =>
      rw [run_array] at returned
      exact isFatal_of_item sequence (by simp) returned fun earlier => ih refused strict
  | key mapping _ _ ih =>
      rw [run_record] at returned
      exact isFatal_of_entry mapping (by simp) returned (.inl fun earlier => ih refused strict.2)
  | value mapping _ _ _ ih =>
      rw [run_record] at returned
      exact isFatal_of_entry mapping (by simp) returned (.inr fun earlier => ih refused strict.1)
  | looseItem | looseKey | looseValue => exact strict.elim
  | step | check | sink | store | looseStore | toldOfItems | toldOfEntries => exact refused.elim

end Validator

inductive Layer where
  | transform (step : Value → Run Reply)
  | map (change : Value → Run Value)
  | refine (check : Value → Run Value) (message : String) (code : IssueCode) (fatal : Bool)
  | pipe (next : Validator)
  | withDefault (value : Value)
  | withSink (sink : Sink)

namespace Layer

def on (inner : Validator) : Layer → Validator
  | .transform step => .transform inner step
  | .map change => inner.map change
  | .refine check message code fatal => .refine inner check message code fatal
  | .pipe next => .pipe inner next
  | .withDefault value => inner.withDefault value
  | .withSink sink => .fallback inner sink

def stack (base : Validator) (layers : List Layer) : Validator :=
  layers.foldl on base

variable {inner : Validator} {input : Value} {failure : Failure}

theorem bind_andThen_of_refused {first : Run Verdict}
    (refused : first.outcome = .ok (.err failure)) (next : Value → Run Verdict) :
    (first >>= fun verdict => verdict.andThen next) = first := by
  rw [Effect.bind_ok refused]
  apply Effect.eq_of_events_outcome
  · simp [Outcome.andThen]
  · simp [Outcome.andThen, refused]

theorem run_fallback_of_fatal (refused : (inner.run input).outcome = .ok (.err failure))
    (fatal : failure.isFatal = true) (sink : Sink) :
    (Validator.fallback inner sink).run input = inner.run input := by
  rw [Validator.run_fallback, Effect.bind_ok refused]
  apply Effect.eq_of_events_outcome
  · simp [Validator.recover, fatal]
  · simp [Validator.recover, fatal, refused]

theorem run_on_of_fatal (layer : Layer) (refused : (inner.run input).outcome = .ok (.err failure))
    (fatal : failure.isFatal = true) : (on inner layer).run input = inner.run input := by
  cases layer with
  | transform step =>
      rw [on, Validator.run_transform]
      exact bind_andThen_of_refused refused _
  | map change =>
      rw [on, Validator.map, Validator.run_transform]
      exact bind_andThen_of_refused refused _
  | refine check message code fatal =>
      rw [on, Validator.run_refine]
      exact bind_andThen_of_refused refused _
  | pipe next =>
      rw [on, Validator.run_pipe]
      exact bind_andThen_of_refused refused _
  | withDefault value => exact run_fallback_of_fatal refused fatal _
  | withSink sink => exact run_fallback_of_fatal refused fatal sink

theorem performs_on_of_fatal (layer : Layer)
    (refused : (inner.run input).outcome = .ok (.err failure)) (fatal : failure.isFatal = true)
    {action : Action} (performs : (on inner layer).Performs input action) :
    action = .part (on inner layer) input ∨ inner.Performs input action := by
  cases layer <;> cases performs
  case transform.self | map.self | refine.self | pipe.self | withDefault.self | withSink.self =>
    exact .inl rfl
  case transform.transformed below | map.transformed below | refine.refined below |
      pipe.first below | withDefault.recovered below | withSink.recovered below =>
    exact .inr below
  case transform.step accepted | map.step accepted | refine.check accepted |
      pipe.second accepted _ =>
    rw [refused] at accepted
    cases accepted
  case withDefault.sink recoverable again | withSink.sink recoverable again =>
    rw [refused] at again
    cases again
    simp [fatal] at recoverable

theorem run_stack_of_fatal (layers : List Layer) (base : Validator)
    (refused : (base.run input).outcome = .ok (.err failure)) (fatal : failure.isFatal = true) :
    (stack base layers).run input = base.run input := by
  induction layers generalizing base with
  | nil => rfl
  | cons layer rest ih =>
      have same := run_on_of_fatal layer refused fatal
      exact (ih (on base layer) (by rw [same]; exact refused)).trans same

theorem performs_stack_of_fatal (layers : List Layer) (base : Validator)
    (refused : (base.run input).outcome = .ok (.err failure)) (fatal : failure.isFatal = true)
    {action : Action} (performs : (stack base layers).Performs input action) :
    base.Performs input action ∨
      ∃ lower, lower <+: layers ∧ action = .part (stack base lower) input := by
  induction layers generalizing base with
  | nil => exact .inl performs
  | cons layer rest ih =>
      have same := run_on_of_fatal layer refused fatal
      rcases ih (on base layer) (by rw [same]; exact refused) performs with below | found
      · rcases performs_on_of_fatal layer refused fatal below with top | below
        · exact .inr ⟨[layer], by simp, top⟩
        · exact .inl below
      · obtain ⟨lower, isPrefix, actionEq⟩ := found
        exact .inr ⟨layer :: lower, by simpa using isPrefix, actionEq⟩

end Layer

/-- Without tolerant collections a run that gets to a fatally refused part is refused fatally, if it
gives an answer at all. On a fatal failure every stack of combinators has the run of its base: the
same failure, the same events, and nothing performed but the runs of the lower stacks. -/
theorem run_preserves_fatal_failures :
    (∀ (validator : Validator) (input : Value) (verdict : Verdict) (part : Validator)
      (given : Value) (failure : Failure),
      validator.IsStrict → (validator.run input).outcome = .ok verdict →
      validator.Performs input (.part part given) →
      (part.run given).outcome = .ok (.err failure) → failure.isFatal = true →
      ∃ top, verdict = .err top ∧ top.isFatal = true) ∧
    (∀ (base : Validator) (layers : List Layer) (input : Value) (failure : Failure),
      (base.run input).outcome = .ok (.err failure) → failure.isFatal = true →
      (Layer.stack base layers).run input = base.run input ∧
      ∀ action, (Layer.stack base layers).Performs input action →
        base.Performs input action ∨
          ∃ lower, lower <+: layers ∧ action = .part (Layer.stack base lower) input) := by
  constructor
  · intro validator input verdict part given failure strict returned performs refused fatal
    have partFatal : (Action.part part given).RefusesFatally := ⟨_, refused, failure, rfl, fatal⟩
    exact Validator.isFatal_of_performs performs partFatal strict returned
  · intro base layers input failure refused fatal
    exact ⟨Layer.run_stack_of_fatal layers base refused fatal,
      fun _ performs => Layer.performs_stack_of_fatal layers base refused fatal performs⟩

/-- A list that holds itself behind a number, under a fallback; and the list alone, under a stack
whose function raises. -/
theorem run_preserves_fatal_failures_of_circular_list :
    (∃ top : Failure,
      (Validator.withDefault (.array (.pipe .unknown .notCircular)) .null |>.run
        (.list [.int 1, .selfHolding])).outcome = .ok (.err top) ∧ top.isFatal = true) ∧
    (Layer.stack .notCircular [.map fun _ => throw .tooLargeForFloat, .withDefault .null]).run
      .selfHolding = Validator.notCircular.run .selfHolding := by
  have refused : (Validator.notCircular.run .selfHolding).outcome =
      .ok (.err (.ofIssue (.custom Validator.circularMessage true))) := rfl
  have sequence : (Value.list [.int 1, .selfHolding]).sequence? =
      some ([.int 1] ++ .selfHolding :: []) := rfl
  constructor
  · obtain ⟨top, topEq, fatal⟩ := run_preserves_fatal_failures.1
      (Validator.withDefault (.array (.pipe .unknown .notCircular)) .null)
      (.list [.int 1, .selfHolding])
      (.err { issues := [(IssueAt.custom Validator.circularMessage true).below (.int 1)] })
      .notCircular .selfHolding _ ⟨trivial, trivial⟩ rfl
      (.recovered (.item sequence ⟨_, rfl⟩ (.second rfl .self))) refused rfl
    exact ⟨_, rfl, by cases topEq; exact fatal⟩
  · exact (run_preserves_fatal_failures.2 .notCircular
      [.map fun _ => throw .tooLargeForFloat, .withDefault .null] .selfHolding _ refused rfl).1

end TolerantValidation
