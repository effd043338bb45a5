import TolerantValidation.Proofs.Validator.Containment
import TolerantValidation.Proofs.Validator.Reported
import TolerantValidation.Validator.Sinks

/-!
A validator as a function in a transformation. Whether the function raises the failure or gives it
as an error, the transformation makes one issue of it; what a pipe accepts it accepts as well.
-/

namespace TolerantValidation

theorem Effect.attempt_bind {Stop Answer Next : Type} (first : Effect Stop Answer)
    (next : Answer → Effect Stop Next) :
    (first >>= next).attempt = first.attempt >>= fun ended =>
      match ended with
      | .error fault => pure (.error fault)
      | .ok value => (next value).attempt := by
  rcases first with ⟨events, fault | value⟩
  · exact Effect.eq_of_events_outcome (List.append_nil events).symm rfl
  · rfl

theorem Effect.attempt_bind_congr {Stop Answer Next : Type} {first : Effect Stop Answer}
    {next other : Except Stop Answer → Effect Stop Next}
    (same : next first.outcome = other first.outcome) :
    first.attempt >>= next = first.attempt >>= other := by
  have attempted : first.attempt.outcome = .ok first.outcome := rfl
  rw [Effect.bind_ok attempted, Effect.bind_ok attempted, same]

namespace FailureAt

variable {failure : Failure}

theorem ne_empty_of_text (reports : failure.issues ≠ []) {shown : String}
    (written : failure.text = .ok shown) : shown ≠ "" := by
  unfold FailureAt.text Value.failureTextBy at written
  split at written
  · rename_i none
    exact absurd none reports
  · rename_i issue _
    cases path : Value.pathTextBy Value.display issue.path with
    | error fault =>
        rw [path] at written
        cases written
    | ok field =>
        rw [path] at written
        cases written
        simp
  · cases written
    simp

theorem summary_rejected (reports : failure.issues ≠ []) :
    (Fault.rejected failure).summary = failure.text := by
  have summed : (Fault.rejected failure).summary =
      failure.text >>= fun shown => .ok (if shown.isEmpty then "ValidationError" else shown) := rfl
  rw [summed]
  cases written : failure.text with
  | error fault => rfl
  | ok shown =>
      have notEmpty : shown.isEmpty = false := by simpa using ne_empty_of_text reports written
      show Except.ok (if shown.isEmpty then _ else shown) = _
      rw [notEmpty, if_neg Bool.false_ne_true]

theorem text_of_unwritten {issue : Issue} {fault : TextFault}
    (unwritten : issue.field = .error fault) : (ofIssue issue).text = .error fault := by
  show (do .ok ((← issue.field) ++ ": " ++ issue.message)) = _
  rw [unwritten]
  rfl

theorem text_isWritten
    (showable : ∀ issue ∈ failure.issues, ∀ segment ∈ issue.path, segment.IsShowable) :
    IsWritten failure.text :=
  Value.failureTextBy_isWritten fun issue member segment inside =>
    Value.display_isWritten (showable issue member segment inside)

end FailureAt

namespace Validator

def embed : Except Fault Verdict → Run Verdict
  | .error fault => do pure (.refuse (← raisedIssue fault false))
  | .ok (.ok accepted) => pure (.ok accepted)
  | .ok (.err failure) => do pure (.refuse (.custom (← Run.ofText failure.text)))

variable {inner : Validator} {value : Value}

theorem applyStep_asStep : applyStep inner.asStep value = (inner.run value).attempt >>= embed := by
  unfold applyStep asStep
  rw [Effect.attempt_bind, bind_assoc]
  congr; funext ended
  rcases ended with fault | accepted | failure
  · rfl
  · rfl
  · rfl

theorem applyStep_parse :
    applyStep (fun value => do pure (.outcome (.ok (← inner.parse value)))) value =
      (inner.run value).attempt >>= embed := by
  unfold applyStep parse
  simp only [Effect.attempt_bind, bind_assoc]
  -- Only for failures with issues, such as a run ends with, does the text equal the summary.
  apply Effect.attempt_bind_congr
  cases outcome : (inner.run value).outcome with
  | error fault => rfl
  | ok verdict =>
      cases verdict with
      | ok accepted => rfl
      | err failure =>
          have reports := run_reported inner outcome failure rfl
          show (do
            let issue ← raisedIssue (.rejected failure) false
            pure (Verdict.refuse issue)) = _
          rw [raisedIssue, FailureAt.summary_rejected reports, bind_assoc]
          rfl

theorem run_map_parse (first second : Validator) (input : Value) :
    (first.map second.parse).run input =
      first.run input >>= fun verdict =>
        verdict.andThen fun accepted => (second.run accepted).attempt >>= embed := by
  rw [Validator.map, run_transform]
  congr; funext verdict
  congr; funext accepted
  exact applyStep_parse

theorem run_transform_asStep (first second : Validator) (input : Value) :
    (Validator.transform first second.asStep).run input =
      first.run input >>= fun verdict =>
        verdict.andThen fun accepted => (second.run accepted).attempt >>= embed := by
  rw [run_transform]
  congr; funext verdict
  congr; funext accepted
  exact applyStep_asStep

theorem embed_events (ended : Except Fault Verdict) : (embed ended).events = [] := by
  rcases ended with fault | accepted | failure
  · cases summed : fault.summary with
    | error textFault => simp only [embed, raisedIssue, summed]; rfl
    | ok summary => simp only [embed, raisedIssue, summed]; rfl
  · rfl
  · cases written : failure.text with
    | error textFault => simp only [embed, written]; rfl
    | ok text => simp only [embed, written]; rfl

theorem attempt_embed (run : Run Verdict) :
    run.attempt >>= embed = ⟨run.events, (embed run.outcome).outcome⟩ := by
  have attempted : run.attempt.outcome = .ok run.outcome := rfl
  rw [Effect.bind_ok attempted, embed_events, List.append_nil]
  rfl

theorem embed_refused {failure : Failure} {text : String} (written : failure.text = .ok text) :
    (embed (.ok (.err failure))).outcome = .ok (.refuse (.custom text)) := by
  simp only [embed, written]
  rfl

theorem embed_unwritten {failure : Failure} {fault : TextFault}
    (unwritten : failure.text = .error fault) :
    (embed (.ok (.err failure))).outcome = .error (.text fault) := by
  simp only [embed, unwritten]
  rfl

theorem embed_raised {fault : Fault} {shown : String} (displayed : fault.display = .ok shown) :
    (embed (.error fault)).outcome =
      .ok (.refuse (.custom (if shown = "" then fault.kind else shown))) := by
  have summed : fault.summary = .ok (if shown = "" then fault.kind else shown) := by
    unfold Fault.summary
    rw [displayed]
    simp only [String.isEmpty_iff]
    rfl
  simp only [embed, raisedIssue, summed]
  rfl

theorem embed_undisplayed {fault : Fault} {textFault : TextFault}
    (undisplayed : fault.display = .error textFault) :
    (embed (.error fault)).outcome = .error (.text textFault) := by
  have summed : fault.summary = .error textFault := by
    unfold Fault.summary
    rw [undisplayed]
    rfl
  simp only [embed, raisedIssue, summed]
  rfl

theorem embed_accepts_iff {ended : Except Fault Verdict} {accepted : Value} :
    (embed ended).outcome = .ok (.ok accepted) ↔ ended = .ok (.ok accepted) := by
  rcases ended with fault | value | failure
  · constructor
    · intro returned
      obtain ⟨issue, _, refused⟩ := Effect.bind_outcome_eq_ok.mp returned
      cases refused
    · rintro ⟨⟩
  · constructor
    · rintro ⟨⟩
      rfl
    · rintro ⟨⟩
      rfl
  · constructor
    · intro returned
      obtain ⟨text, _, refused⟩ := Effect.bind_outcome_eq_ok.mp returned
      cases refused
    · rintro ⟨⟩

end Validator

/-- A function that runs a validator may raise the failure or give it back, the transformation does
the same. It accepts what the pipe accepts, after the same events, and passes on what the first
validator refuses; a failure or a fault of the second one becomes one issue with its text, where
there is one. -/
theorem embedded_validator_agrees (first second : Validator) (input : Value) :
    let raising := (first.map second.parse).run input
    let replying := (Validator.transform first second.asStep).run input
    let piped := (Validator.pipe first second).run input
    let refusal (message : String) : Except Fault Verdict :=
      .ok (.err { issues := [{ code := .custom, message, path := [], fatal := false }] })
    raising = replying ∧ raising.events = piped.events ∧
    (∀ accepted, raising.outcome = .ok (.ok accepted) ↔ piped.outcome = .ok (.ok accepted)) ∧
    (∀ failure, (first.run input).outcome = .ok (.err failure) →
      raising.outcome = .ok (.err failure) ∧ piped.outcome = .ok (.err failure)) ∧
    (∀ fault, (first.run input).outcome = .error fault →
      raising.outcome = .error fault ∧ piped.outcome = .error fault) ∧
    ∀ accepted, (first.run input).outcome = .ok (.ok accepted) →
      (∀ failure, (second.run accepted).outcome = .ok (.err failure) →
        piped.outcome = .ok (.err failure) ∧
        (∀ text, failure.text = .ok text → raising.outcome = refusal text) ∧
        (∀ fault, failure.text = .error fault → raising.outcome = .error (.text fault)) ∧
        ((∀ issue ∈ failure.issues, ∀ segment ∈ issue.path, segment.IsShowable) →
          ∃ text, failure.text = .ok text)) ∧
      ∀ fault, (second.run accepted).outcome = .error fault →
        piped.outcome = .error fault ∧
        (∀ text, fault.display = .ok text →
          raising.outcome = refusal (if text = "" then fault.kind else text)) ∧
        ∀ textFault, fault.display = .error textFault →
          raising.outcome = .error (.text textFault) := by
  intro raising replying piped refusal
  have raisingEq : raising = first.run input >>= fun verdict =>
      verdict.andThen fun accepted => (second.run accepted).attempt >>= Validator.embed :=
    Validator.run_map_parse first second input
  have pipedEq : piped = first.run input >>= fun verdict => verdict.andThen second.run :=
    Validator.run_pipe first second input
  refine ⟨raisingEq.trans (Validator.run_transform_asStep first second input).symm, ?_⟩
  rw [raisingEq, pipedEq]
  cases ended : (first.run input).outcome with
  | error fault =>
      simp only [Effect.bind_error ended]
      refine ⟨trivial, fun _ => trivial, ?_, ?_, ?_⟩
      · rintro _ ⟨⟩
      · rintro _ ⟨⟩
        exact ⟨rfl, rfl⟩
      · rintro _ ⟨⟩
  | ok verdict =>
      simp only [Effect.bind_ok ended]
      cases verdict with
      | err failure =>
          refine ⟨rfl, fun _ => Iff.rfl, ?_, ?_, ?_⟩
          · rintro _ ⟨⟩
            exact ⟨rfl, rfl⟩
          · rintro _ ⟨⟩
          · rintro _ ⟨⟩
      | ok accepted =>
          simp only [Outcome.andThen, Validator.attempt_embed, Validator.embed_accepts_iff]
          refine ⟨trivial, fun _ => trivial, ?_, ?_, ?_⟩
          · rintro _ ⟨⟩
          · rintro _ ⟨⟩
          · rintro _ ⟨⟩
            constructor
            · intro failure refused
              rw [refused]
              refine ⟨rfl, ?_, ?_, FailureAt.text_isWritten⟩
              · exact fun text => Validator.embed_refused
              · exact fun fault => Validator.embed_unwritten
            · intro fault raised
              rw [raised]
              refine ⟨rfl, ?_, ?_⟩
              · exact fun text => Validator.embed_raised
              · exact fun textFault => Validator.embed_undisplayed

/-- A value of an entry that is refused, and a sink that raises without a message. -/
theorem embedded_validator_agrees_of_refusals :
    let table := Value.mapping [(.text "a", .text "x")]
    let record := Validator.record .integer .unknown
    let refused := (Validator.unknown.map record.parse).run table
    let raising := Validator.fallback .integer (Sink.raising "ValueError" none)
    let refusal (message : String) : Except Fault Verdict :=
      .ok (.err { issues := [{ code := .custom, message, path := [], fatal := false }] })
    refused = (Validator.transform .unknown record.asStep).run table ∧
    refused.outcome = refusal "a: Expected integer, got str" ∧
    ((Validator.unknown.map raising.parse).run (.text "x")).outcome = refusal "ValueError" := by
  intro table record refused raising refusal
  obtain ⟨same, _, _, _, _, ofSecond⟩ := embedded_validator_agrees .unknown record table
  obtain ⟨_, written, _⟩ := (ofSecond table rfl).1 _ rfl
  obtain ⟨_, _, _, _, _, ofRaising⟩ := embedded_validator_agrees .unknown raising (.text "x")
  obtain ⟨_, displayed, _⟩ := (ofRaising (.text "x") rfl).2 _ rfl
  refine ⟨same, written "a: Expected integer, got str" rfl, displayed "" ?_⟩
  rw [Fault.display]
  rfl

/-- The failure of a value under a key that nests too deep has no text, so the transformation raises
a fault of its own where the pipe refuses. -/
theorem embedded_failure_without_text :
    let key := (Value.int 1).tupled 5000
    let input := Value.mapping [(key, .text "x")]
    let record := Validator.record .integer .unknown
    ((Validator.pipe .unknown record).run input).outcome =
        .ok (.err { issues := [(IssueAt.wrongType "integer" (.text "x")).below key] }) ∧
      key.HasShortIntegers ∧
      ((Validator.unknown.map record.parse).run input).outcome = .error (.text .tooDeep) := by
  intro key input record
  have refused : (record.run input).outcome =
      .ok (.err { issues := [(IssueAt.wrongType "integer" (.text "x")).below key] }) := rfl
  refine ⟨refused, ?_, ?_⟩
  · intro whole occurs
    obtain ⟨less, same⟩ := Value.occurs_tupled rfl occurs
    cases less with
    | succ less => cases same
    | zero =>
        cases same
        decide +kernel
  · have unwritten : Value.pathText [key] = .error .tooDeep :=
      Value.pathText_of_undisplayed (Value.display_tupled _ (by decide)) []
    rw [Validator.run_map_parse, Validator.run, pure_bind]
    simp only [Outcome.andThen, Validator.attempt_embed, refused]
    exact Validator.embed_unwritten (FailureAt.text_of_unwritten unwritten)

end TolerantValidation
