import TolerantValidation.Proofs.Validator.Acceptance
import TolerantValidation.Proofs.Validator.Containment
import TolerantValidation.Proofs.Validator.Fatality
import TolerantValidation.Proofs.Validator.LooseEntries

/-!
Where fatal issues come from. Only three kinds of parts make a failure fatal: a check for cycles, a
check that was declared fatal, and a step that gives a fatal issue. Everything else hands the flags
of issues on as they are, so a validator without such parts can always be given a default.
-/

namespace TolerantValidation

namespace Verdict

theorem not_isFatal_ok (value : Value) : ¬ IsFatal (.ok value) := by
  rintro ⟨failure, ⟨⟩, _⟩

theorem isFatal_refuse_iff {issue : Issue} : IsFatal (refuse issue) ↔ issue.fatal = true := by
  constructor
  · rintro ⟨failure, refused, fatal⟩
    cases refused
    simpa [FailureAt.isFatal, FailureAt.ofIssue] using fatal
  · intro fatal
    exact ⟨_, rfl, by simp [FailureAt.isFatal, FailureAt.ofIssue, fatal]⟩

theorem not_isFatal_refuse {issue : Issue} (mild : issue.fatal = false) :
    ¬ IsFatal (refuse issue) := by
  simp [isFatal_refuse_iff, mild]

theorem not_isFatal_wrongType (expected : String) (value : Value) :
    ¬ IsFatal (wrongType expected value) :=
  not_isFatal_refuse rfl

theorem isFatal_ofIssues_iff (value : Value) (issues : List Issue) :
    IsFatal (if issues.isEmpty then .ok value else .err { issues }) ↔
      ∃ issue ∈ issues, issue.fatal = true := by
  by_cases noIssues : issues = []
  · simpa [noIssues] using not_isFatal_ok value
  · simp [List.isEmpty_iff, noIssues, IsFatal, FailureAt.isFatal_iff]

theorem isFatal_of_mem_issuesBelow {segment : Value} {verdict : Verdict} {issue : Issue}
    (member : issue ∈ verdict.issuesBelow segment) (fatal : issue.fatal = true) :
    verdict.IsFatal := by
  cases verdict with
  | ok accepted => cases member
  | err failure =>
      obtain ⟨inner, inside, rfl⟩ := List.mem_map.mp member
      exact ⟨failure, rfl, (FailureAt.isFatal_iff failure).mpr ⟨inner, inside, fatal⟩⟩

end Verdict

namespace Validator

/-- The part by itself, and not through parts of its own, can make a failure on the input fatal. -/
def MakesFatal : Validator → Value → Prop
  | .notCircular, _ => True
  | .refine _ _ _ _ fatal, _ => fatal = true
  | .transform inner step, input => ∃ accepted issue,
      (inner.run input).outcome = .ok (.ok accepted) ∧
      (step accepted).outcome = .ok (.outcome (.err (.issue issue))) ∧ issue.fatal = true
  | _, _ => False

/-- The run gets to a part that can make its failure fatal. -/
def HasFatalSource (validator : Validator) (input : Value) : Prop :=
  ∃ part given, validator.Performs input (.part part given) ∧ part.MakesFatal given

theorem MakesFatal.hasFatalSource {validator : Validator} {input : Value}
    (makes : validator.MakesFatal input) : validator.HasFatalSource input :=
  ⟨validator, input, .self, makes⟩

theorem HasFatalSource.ofPart {whole part : Validator} {input given : Value}
    (source : part.HasFatalSource given)
    (reached : ∀ action, part.Performs given action → whole.Performs input action) :
    whole.HasFatalSource input := by
  obtain ⟨origin, received, performs, makes⟩ := source
  exact ⟨origin, received, reached _ performs, makes⟩

section Leaves

variable {input : Value} {verdict : Verdict}

theorem IsLeaf.not_isFatal {validator : Validator} (leaf : IsLeaf validator)
    (returned : (validator.run input).outcome = .ok verdict) : ¬ verdict.IsFatal := by
  cases leaf with
  | string =>
      simp only [run, checkString] at returned
      split at returned
      · split at returned <;> cases returned
        · exact Verdict.not_isFatal_refuse rfl
        · exact Verdict.not_isFatal_refuse rfl
        · exact Verdict.not_isFatal_ok _
      · cases returned
        exact Verdict.not_isFatal_wrongType _ _
  | integer =>
      simp only [run, checkInteger] at returned
      split at returned <;> cases returned
      · exact Verdict.not_isFatal_ok _
      · exact Verdict.not_isFatal_wrongType _ _
  | number =>
      simp only [run, checkNumber] at returned
      split at returned <;> cases returned
      · exact Verdict.not_isFatal_ok _
      · exact Verdict.not_isFatal_ok _
      · exact Verdict.not_isFatal_wrongType _ _
  | boolean =>
      simp only [run, checkBoolean] at returned
      split at returned <;> cases returned
      · exact Verdict.not_isFatal_ok _
      · exact Verdict.not_isFatal_wrongType _ _
  | unknown =>
      cases returned
      exact Verdict.not_isFatal_ok _
  | literal =>
      simp only [run, checkLiteral] at returned
      split at returned
      · cases returned
      · split at returned
        · cases returned
          exact Verdict.not_isFatal_ok _
        · obtain ⟨_, _, returned⟩ := Effect.bind_outcome_eq_ok.mp returned
          obtain ⟨_, _, returned⟩ := Effect.bind_outcome_eq_ok.mp returned
          cases returned
          exact Verdict.not_isFatal_refuse rfl

theorem checkFormat_not_isFatal {format : Document.Format}
    (returned : (checkFormat format input).outcome = .ok verdict) : ¬ verdict.IsFatal := by
  unfold checkFormat at returned
  split at returned
  · simp only at returned
    split at returned <;> cases returned
    · exact Verdict.not_isFatal_ok _
    · exact Verdict.not_isFatal_refuse rfl
  · cases returned
    exact Verdict.not_isFatal_wrongType _ _

theorem checkModel_not_isFatal {shape : Record.FieldType} {strict : Bool}
    (returned : (checkModel shape strict input).outcome = .ok verdict) : ¬ verdict.IsFatal := by
  obtain ⟨result, _, returned⟩ := Effect.bind_outcome_eq_ok.mp returned
  cases result with
  | ok fitted =>
      cases returned
      exact Verdict.not_isFatal_ok _
  | error errors =>
      cases returned
      rintro ⟨failure, ⟨⟩, fatal⟩
      obtain ⟨issue, member, isFatal⟩ := (FailureAt.isFatal_iff _).mp fatal
      obtain ⟨error, _, rfl⟩ := List.mem_map.mp member
      cases isFatal

end Leaves

/-- A step makes a failure fatal only by a fatal issue of its own: what it raises, and what else it
gives as an error, is put into an issue that is not fatal. -/
theorem applyStep_isFatal {step : Value → Run Reply} {accepted : Value} {verdict : Verdict}
    (returned : (applyStep step accepted).outcome = .ok verdict) (fatal : verdict.IsFatal) :
    ∃ issue, (step accepted).outcome = .ok (.outcome (.err (.issue issue))) ∧
      issue.fatal = true := by
  unfold applyStep at returned
  obtain ⟨reply, replied, returned⟩ := Effect.bind_outcome_eq_ok.mp returned
  cases replied
  split at returned
  · obtain ⟨issue, raised, returned⟩ := Effect.bind_outcome_eq_ok.mp returned
    obtain ⟨summary, _, raised⟩ := Effect.bind_outcome_eq_ok.mp raised
    cases raised
    cases returned
    cases Verdict.isFatal_refuse_iff.mp fatal
  · cases returned
    exact (Verdict.not_isFatal_ok _ fatal).elim
  · rename_i issue gave
    cases returned
    exact ⟨issue, gave, Verdict.isFatal_refuse_iff.mp fatal⟩
  · obtain ⟨message, _, returned⟩ := Effect.bind_outcome_eq_ok.mp returned
    cases returned
    cases Verdict.isFatal_refuse_iff.mp fatal
  · cases returned

theorem isFatal_eq_of_applyCheck {check : Value → Run Value} {message : String} {code : IssueCode}
    {fatal : Bool} {accepted : Value} {failure : Failure}
    (returned : (applyCheck check message code fatal accepted).outcome = .ok (.err failure)) :
    failure.isFatal = fatal := by
  unfold applyCheck at returned
  obtain ⟨answer, _, returned⟩ := Effect.bind_outcome_eq_ok.mp returned
  split at returned
  · obtain ⟨issue, raised, returned⟩ := Effect.bind_outcome_eq_ok.mp returned
    obtain ⟨summary, _, raised⟩ := Effect.bind_outcome_eq_ok.mp raised
    cases raised
    cases returned
    simp [FailureAt.isFatal, FailureAt.ofIssue, IssueAt.custom]
  · split at returned <;> cases returned
    simp [FailureAt.isFatal, FailureAt.ofIssue]

section Collections

variable {check checkKey checkValue : Value → Run Verdict} {input : Value} {verdict : Verdict}

theorem arrayOf_isFatal (returned : (arrayOf check input).outcome = .ok verdict)
    (fatal : verdict.IsFatal) :
    ∃ before item after part, input.sequence? = some (before ++ item :: after) ∧
      (arrayOf check (.list before)).Answers ∧ (check item).outcome = .ok part ∧
      part.IsFatal := by
  cases sequence : input.sequence? with
  | none =>
      simp only [arrayOf, sequence] at returned
      cases returned
      exact (Verdict.not_isFatal_wrongType _ _ fatal).elim
  | some items =>
      have answers := (arrayOf_answers_iff sequence).mp ⟨_, returned⟩
      obtain ⟨verdictOf, answered⟩ := exists_verdicts answers
      simp only [arrayOf, sequence, sortItems_eq 0 items answered] at returned
      cases returned
      obtain ⟨issue, reported, isFatal⟩ := (Verdict.isFatal_ofIssues_iff _ _).mp fatal
      obtain ⟨place, member, raised⟩ := List.mem_flatMap.mp reported
      have inside : place.1 ∈ items := List.fst_mem_of_mem_zipIdx member
      obtain ⟨before, after, rfl⟩ := List.append_of_mem inside
      refine ⟨before, place.1, after, _, rfl, ?_, answered _ inside,
        Verdict.isFatal_of_mem_issuesBelow raised isFatal⟩
      rw [arrayOf_answers_iff (Value.sequence?_collection_list before)]
      exact fun earlier earlierMember => answers earlier (by simp [earlierMember])

theorem recordOf_isFatal (returned : (recordOf checkKey checkValue input).outcome = .ok verdict)
    (fatal : verdict.IsFatal) :
    ∃ before entry after key value, input.entries? = some (before ++ entry :: after) ∧
      (recordOf checkKey checkValue (.mapping before)).Answers ∧
      (checkKey entry.1).outcome = .ok key ∧ (checkValue entry.2).outcome = .ok value ∧
      (key.IsFatal ∨ value.IsFatal) := by
  cases mapping : input.entries? with
  | none =>
      simp only [recordOf, mapping] at returned
      cases returned
      exact (Verdict.not_isFatal_wrongType _ _ fatal).elim
  | some entries =>
      simp only [recordOf, mapping] at returned
      obtain ⟨⟨stored, issues⟩, sorted, returned⟩ := Effect.bind_outcome_eq_ok.mp returned
      cases returned
      have answers := sortEntries_answered sorted
      have keys := fun entry inside => outcome_eq_verdictOf (answers entry inside).1
      have values := fun entry inside => outcome_eq_verdictOf (answers entry inside).2
      obtain ⟨issue, reported, isFatal⟩ := (Verdict.isFatal_ofIssues_iff _ _).mp fatal
      have issuesEq := sortEntries_issues sorted keys values
      rw [show issues = _ from issuesEq] at reported
      obtain ⟨entry, inside, raised⟩ := List.mem_flatMap.mp reported
      obtain ⟨before, after, rfl⟩ := List.append_of_mem inside
      refine ⟨before, entry, after, _, _, rfl, ?_, keys entry inside, values entry inside, ?_⟩
      · simp only [recordOf, Value.entries?_mapping]
        rw [Effect.bind_pure_answers, sortEntries_eq_foldlM]
        rw [sortEntries_eq_foldlM, List.foldlM_append] at sorted
        obtain ⟨state, reached, _⟩ := Effect.bind_outcome_eq_ok.mp sorted
        exact ⟨state, reached⟩
      · rcases List.mem_append.mp raised with ofKey | ofValue
        · exact .inl (Verdict.isFatal_of_mem_issuesBelow ofKey isFatal)
        · exact .inr (Verdict.isFatal_of_mem_issuesBelow ofValue isFatal)

theorem looseArrayOf_not_isFatal {onError : Option Sink}
    (returned : (looseArrayOf check onError input).outcome = .ok verdict) : ¬ verdict.IsFatal := by
  unfold looseArrayOf at returned
  split at returned
  · cases returned
    exact Verdict.not_isFatal_wrongType _ _
  · split at returned
    · obtain ⟨_, _, returned⟩ := Effect.bind_outcome_eq_ok.mp returned
      cases returned
      exact Verdict.not_isFatal_ok _
    · obtain ⟨_, _, returned⟩ := Effect.bind_outcome_eq_ok.mp returned
      obtain ⟨_, _, returned⟩ := Effect.bind_outcome_eq_ok.mp returned
      cases returned
      exact Verdict.not_isFatal_ok _

theorem looseRecordOf_not_isFatal {onError : Option Sink}
    (returned : (looseRecordOf checkKey checkValue onError input).outcome = .ok verdict) :
    ¬ verdict.IsFatal := by
  unfold looseRecordOf at returned
  split at returned
  · cases returned
    exact Verdict.not_isFatal_wrongType _ _
  · split at returned
    · obtain ⟨_, _, returned⟩ := Effect.bind_outcome_eq_ok.mp returned
      cases returned
      exact Verdict.not_isFatal_ok _
    · obtain ⟨_, _, returned⟩ := Effect.bind_outcome_eq_ok.mp returned
      obtain ⟨_, _, returned⟩ := Effect.bind_outcome_eq_ok.mp returned
      cases returned
      exact Verdict.not_isFatal_ok _

end Collections

theorem chained_isFatal {first : Run Verdict} {next : Value → Run Verdict} {verdict : Verdict}
    (returned : (first >>= fun verdict => verdict.andThen next).outcome = .ok verdict)
    (fatal : verdict.IsFatal) :
    first.outcome = .ok verdict ∨
      ∃ accepted, first.outcome = .ok (.ok accepted) ∧
        (next accepted).outcome = .ok verdict := by
  obtain ⟨earlier, answered, returned⟩ := Effect.bind_outcome_eq_ok.mp returned
  cases earlier with
  | ok accepted => exact .inr ⟨accepted, answered, returned⟩
  | err failure =>
      cases returned
      exact .inl answered

theorem hasFatalSource_of_isFatal (validator : Validator) {input : Value} {verdict : Verdict}
    (returned : (validator.run input).outcome = .ok verdict) (fatal : verdict.IsFatal) :
    validator.HasFatalSource input := by
  -- Each constructor makes the failure fatal itself or has it from a part that it ran.
  induction validator generalizing input verdict with
  | string => exact (IsLeaf.string.not_isFatal returned fatal).elim
  | integer => exact (IsLeaf.integer.not_isFatal returned fatal).elim
  | number => exact (IsLeaf.number.not_isFatal returned fatal).elim
  | boolean => exact (IsLeaf.boolean.not_isFatal returned fatal).elim
  | unknown => exact (IsLeaf.unknown.not_isFatal returned fatal).elim
  | literal => exact (IsLeaf.literal.not_isFatal returned fatal).elim
  | format => exact (checkFormat_not_isFatal returned fatal).elim
  | notCircular => exact MakesFatal.hasFatalSource trivial
  | model => exact (checkModel_not_isFatal returned fatal).elim
  | transform inner step ih =>
      rw [run_transform] at returned
      rcases chained_isFatal returned fatal with innerReturned | ⟨accepted, innerReturned, stepped⟩
      · exact (ih innerReturned fatal).ofPart fun _ => .transformed
      · obtain ⟨issue, gave, isFatal⟩ := applyStep_isFatal stepped fatal
        exact MakesFatal.hasFatalSource ⟨accepted, issue, innerReturned, gave, isFatal⟩
  | pipe first second ihFirst ihSecond =>
      rw [run_pipe] at returned
      rcases chained_isFatal returned fatal with firstReturned | ⟨accepted, firstReturned, went⟩
      · exact (ihFirst firstReturned fatal).ofPart fun _ => .first
      · exact (ihSecond went fatal).ofPart fun _ => .second firstReturned
  | refine inner check message code isFatal ih =>
      rw [run_refine] at returned
      rcases chained_isFatal returned fatal with innerReturned | ⟨accepted, _, checked⟩
      · exact (ih innerReturned fatal).ofPart fun _ => .refined
      · obtain ⟨failure, rfl, failureFatal⟩ := fatal
        exact MakesFatal.hasFatalSource ((isFatal_eq_of_applyCheck checked).symm.trans failureFatal)
  | fallback inner sink ih =>
      rw [run_fallback] at returned
      obtain ⟨earlier, innerReturned, returned⟩ := Effect.bind_outcome_eq_ok.mp returned
      cases earlier with
      | ok accepted =>
          cases returned
          exact (Verdict.not_isFatal_ok _ fatal).elim
      | err failure =>
          simp only [recover] at returned
          split at returned
          · cases returned
            exact (ih innerReturned fatal).ofPart fun _ => .recovered
          · obtain ⟨_, _, returned⟩ := Effect.bind_outcome_eq_ok.mp returned
            cases returned
            exact (Verdict.not_isFatal_ok _ fatal).elim
  | array element ih =>
      obtain ⟨before, item, after, part, sequence, reached, itemReturned, partFatal⟩ :=
        arrayOf_isFatal returned fatal
      exact (ih itemReturned partFatal).ofPart fun _ => .item sequence reached
  | record value key ihValue ihKey =>
      obtain ⟨before, entry, after, keyPart, valuePart, mapping, reached, keyReturned,
        valueReturned, partFatal | partFatal⟩ := recordOf_isFatal returned fatal
      · exact (ihKey keyReturned partFatal).ofPart fun _ => .key mapping reached
      · exact (ihValue valueReturned partFatal).ofPart fun _ => .value mapping reached keyReturned
  | looseArray element onError => exact (looseArrayOf_not_isFatal returned fatal).elim
  | looseRecord value key onError => exact (looseRecordOf_not_isFatal returned fatal).elim

/-- In the whole validator nothing checks for cycles, no check is fatal, and no step gives a fatal
issue. -/
def IsMild : Validator → Prop
  | .notCircular => False
  | .transform inner step => inner.IsMild ∧ ∀ accepted issue,
      (step accepted).outcome = .ok (.outcome (.err (.issue issue))) → issue.fatal = false
  | .refine inner _ _ _ fatal => inner.IsMild ∧ fatal = false
  | .fallback inner _ | .array inner | .looseArray inner _ => inner.IsMild
  | .pipe first second => first.IsMild ∧ second.IsMild
  | .record value key | .looseRecord value key _ => value.IsMild ∧ key.IsMild
  | _ => True

theorem IsMild.not_makesFatal {validator : Validator} (mild : validator.IsMild) (input : Value) :
    ¬ validator.MakesFatal input := by
  cases validator with
  | notCircular => exact mild.elim
  | transform inner step =>
      rintro ⟨accepted, issue, _, gave, isFatal⟩
      exact Bool.false_ne_true ((mild.2 accepted issue gave).symm.trans isFatal)
  | refine inner check message code fatal =>
      exact fun isFatal => Bool.false_ne_true (mild.2.symm.trans isFatal)
  | _ => exact id

theorem IsMild.part {validator part : Validator} {input given : Value}
    (performs : validator.Performs input (.part part given)) (mild : validator.IsMild) :
    part.IsMild := by
  generalize actionEq : Action.part part given = action at performs
  induction performs with
  | self =>
      cases actionEq
      exact mild
  | transformed _ ih | refined _ ih => exact ih mild.1 actionEq
  | recovered _ ih | item _ _ _ ih | looseItem _ _ _ ih => exact ih mild actionEq
  | first _ ih | value _ _ _ _ ih | looseValue _ _ _ _ ih => exact ih mild.1 actionEq
  | second _ _ ih | key _ _ _ ih | looseKey _ _ _ ih => exact ih mild.2 actionEq
  | step | check | sink | store | looseStore | toldOfItems | toldOfEntries => cases actionEq

theorem IsMild.not_isFatal {validator : Validator} (mild : validator.IsMild) {input : Value}
    {failure : Failure} (returned : (validator.run input).outcome = .ok (.err failure)) :
    failure.isFatal = false := by
  cases isFatal : failure.isFatal with
  | false => rfl
  | true =>
      obtain ⟨part, given, performs, makes⟩ :=
        hasFatalSource_of_isFatal validator returned ⟨failure, rfl, isFatal⟩
      exact ((mild.part performs).not_makesFatal given makes).elim

theorem IsMild.run_withDefault {validator : Validator} (mild : validator.IsMild)
    (substitute input : Value) :
    (validator.withDefault substitute).run input =
      validator.run input >>= fun verdict => pure (.ok (verdict.getD substitute)) := by
  rw [withDefault, run_fallback]
  cases outcome : (validator.run input).outcome with
  | error fault => rw [Effect.bind_error outcome, Effect.bind_error outcome]
  | ok verdict =>
      rw [Effect.bind_ok outcome, Effect.bind_ok outcome]
      cases verdict with
      | ok accepted => rfl
      | err failure => simp [recover, mild.not_isFatal outcome, Outcome.getD]

theorem run_refine_of_accepted {inner : Validator} {input accepted : Value}
    (answered : (inner.run input).outcome = .ok (.ok accepted)) (check : Value → Run Value)
    (message : String) (code : IssueCode) (fatal : Bool) :
    ((Validator.refine inner check message code fatal).run input).outcome =
      (applyCheck check message code fatal accepted).outcome := by
  rw [run_refine, Effect.bind_ok answered]
  rfl

theorem applyCheck_of_answered {check : Value → Run Value} {accepted passed : Value}
    (answered : (check accepted).outcome = .ok passed) (message : String) (code : IssueCode)
    (fatal : Bool) :
    (applyCheck check message code fatal accepted).outcome =
      .ok (if passed.truthy then .ok accepted else .refuse { code, message, fatal }) := by
  unfold applyCheck
  rw [Effect.bind_ok rfl, answered]
  dsimp only
  split <;> rfl

theorem applyCheck_of_raised {check : Value → Run Value} {accepted : Value} {fault : Fault}
    {summary : String} (raised : (check accepted).outcome = .error fault)
    (shown : fault.summary = .ok summary) (message : String) (code : IssueCode) (fatal : Bool) :
    (applyCheck check message code fatal accepted).outcome =
      .ok (.refuse (.custom summary fatal)) := by
  unfold applyCheck
  rw [Effect.bind_ok rfl, raised]
  simp only [raisedIssue, shown]
  rfl

end Validator

/-- A failure is fatal only where its run gets to a check for cycles, a fatal check, or a step that
gives a fatal issue. So a validator without these never fails fatally, and with a default it accepts
wherever it answers, the default standing for each failure. What a fatal check refuses is refused
fatally, whether the check is false of it or raises. -/
theorem fatal_failures_have_sources (validator : Validator) (input : Value) :
    (∀ failure, (validator.run input).outcome = .ok (.err failure) → failure.isFatal = true →
      ∃ part given, validator.Performs input (.part part given) ∧ part.MakesFatal given) ∧
    (validator.IsMild →
      (∀ failure, (validator.run input).outcome = .ok (.err failure) →
        ∀ issue ∈ failure.issues, issue.fatal = false) ∧
      ∀ substitute, (validator.withDefault substitute).run input =
        validator.run input >>= fun verdict => pure (.ok (verdict.getD substitute))) ∧
    ∀ (check : Value → Run Value) (message : String) (code : IssueCode) (accepted : Value),
      (validator.run input).outcome = .ok (.ok accepted) →
      let refined := (Validator.refine validator check message code true).run input
      (∀ failure, refined.outcome = .ok (.err failure) → failure.isFatal = true) ∧
      (∀ passed, (check accepted).outcome = .ok passed →
        refined.outcome = .ok (if passed.truthy then .ok accepted
          else .err { issues := [{ code, message, path := [], fatal := true }] })) ∧
      ∀ fault summary, (check accepted).outcome = .error fault → fault.summary = .ok summary →
        refined.outcome = .ok (.err
          { issues := [{ code := .custom, message := summary, path := [], fatal := true }] }) := by
  refine ⟨?_, ?_, ?_⟩
  · intro failure returned isFatal
    exact validator.hasFatalSource_of_isFatal returned ⟨failure, rfl, isFatal⟩
  · intro mild
    refine ⟨?_, fun substitute => mild.run_withDefault substitute input⟩
    intro failure returned
    have notFatal := mild.not_isFatal returned
    simpa [FailureAt.isFatal] using notFatal
  · intro check message code accepted answered refined
    have refinedEq := Validator.run_refine_of_accepted answered check message code true
    refine ⟨?_, ?_, ?_⟩
    · intro failure refused
      exact Validator.isFatal_eq_of_applyCheck (refinedEq.symm.trans refused)
    · intro passed checked
      exact refinedEq.trans (Validator.applyCheck_of_answered checked message code true)
    · intro fault summary raised shown
      exact refinedEq.trans (Validator.applyCheck_of_raised raised shown message code true)

/-- A number under a check that raises, next to a text; the same row under a fatal check that is
false; and the number alone under a fatal check that raises. -/
theorem fatal_failures_have_sources_of_checked_row :
    let row := Value.list [.int 1, .text "x"]
    let raising : Value → Run Value := fun _ => throw .tooLargeForFloat
    let mild := Validator.array (.refine .integer raising "refused" .custom false)
    let strict := Validator.array
      (.refine .integer (fun _ => pure .null) "refused" .invalidValue true)
    let tooLarge (path : List Value) (fatal : Bool) : Issue :=
      { code := .custom, message := "int too large to convert to float", path, fatal }
    let issues := [tooLarge [.int 0] false,
      { code := .invalidType, message := "Expected integer, got str", path := [.int 1] }]
    (mild.IsMild ∧ (mild.run row).outcome = .ok (.err { issues }) ∧
      (∀ issue ∈ issues, issue.fatal = false) ∧
      ((mild.withDefault .null).run row).outcome = .ok (.ok .null)) ∧
    (∃ part given, strict.Performs row (.part part given) ∧ part.MakesFatal given) ∧
    ((Validator.refine .integer raising "refused" .invalidValue true).run (.int 1)).outcome =
      .ok (.err { issues := [tooLarge [] true] }) := by
  intro row raising mild strict tooLarge issues
  have shown : Fault.tooLargeForFloat.summary = .ok "int too large to convert to float" := by
    simp [Fault.summary, Fault.display]
    rfl
  obtain ⟨-, ofMild, -⟩ := fatal_failures_have_sources mild row
  obtain ⟨sources, -, -⟩ := fatal_failures_have_sources strict row
  obtain ⟨-, -, rejections⟩ := fatal_failures_have_sources .integer (.int 1)
  have isMild : mild.IsMild := ⟨trivial, rfl⟩
  obtain ⟨notFatal, defaulted⟩ := ofMild isMild
  have first : ((Validator.refine .integer raising "refused" .custom false).run (.int 1)).outcome =
      .ok (.err { issues := [tooLarge [] false] }) := by
    rw [Validator.run_refine_of_accepted rfl]
    exact Validator.applyCheck_of_raised rfl shown _ _ _
  have refused : (mild.run row).outcome = .ok (.err { issues }) := by
    simp only [mild, row, Validator.run_array, Validator.arrayOf,
      Value.sequence?_collection_list, Validator.sortItems, Effect.bind_ok first]
    rfl
  refine ⟨⟨isMild, refused, notFatal _ refused, ?_⟩, ?_, ?_⟩
  · rw [defaulted, Effect.bind_ok refused]
    rfl
  · exact sources { issues := [
      { code := .invalidValue, message := "refused", path := [.int 0], fatal := true },
      { code := .invalidType, message := "Expected integer, got str", path := [.int 1] }] } rfl rfl
  · exact (rejections raising "refused" .invalidValue (.int 1) rfl).2.2 _ _ rfl shown

end TolerantValidation
