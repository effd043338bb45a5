import TolerantValidation.Proofs.Record.Fitting
import TolerantValidation.Proofs.Validator.Action

/-!
Every failure reports something: no run is refused with an empty list of issues, so a collection may
tell that a part was refused by the issues alone.
-/

namespace TolerantValidation

namespace Record

/-- Where the run ends with errors, there is one. -/
def IsReporting {Read : Type} (run : Run (Except (List FieldError) Read)) : Prop :=
  ∀ errors, run.outcome = .ok (.error errors) → errors ≠ []

namespace IsReporting

variable {Read Next : Type}

theorem here (result : Except FieldFault Read) : IsReporting (pure (Record.here result)) := by
  intro errors refused
  cases result with
  | ok read => cases refused
  | error fault =>
      cases refused
      simp

theorem error (error : FieldError) :
    IsReporting (pure (.error [error]) : Run (Except (List FieldError) Read)) := by
  rintro _ ⟨⟩
  simp

theorem ok (read : Read) : IsReporting (pure (.ok read)) := by
  rintro _ ⟨⟩

theorem bind {Given : Type} {first : Run Given}
    {next : Given → Run (Except (List FieldError) Read)}
    (reporting : ∀ given, IsReporting (next given)) : IsReporting (first >>= next) := by
  intro errors refused
  obtain ⟨given, _, refused⟩ := Effect.bind_outcome_eq_ok.mp refused
  exact reporting given errors refused

theorem map {run : Run (Except (List FieldError) Read)} (reporting : IsReporting run)
    (change : Read → Next) : IsReporting (run >>= fun read => pure (read.map change)) := by
  intro errors refused
  obtain ⟨result, ended, refused⟩ := Effect.bind_outcome_eq_ok.mp refused
  cases result <;> cases refused
  exact reporting _ ended

theorem joined {first : Run (Except (List FieldError) Read)}
    {others : Run (Except (List FieldError) (List Read))} (segment : Value)
    (firstReporting : IsReporting first) (othersReporting : IsReporting others) :
    IsReporting (do
      let result ← first
      let rest ← others
      pure (Record.joined segment result rest)) := by
  intro errors refused
  obtain ⟨result, ended, refused⟩ := Effect.bind_outcome_eq_ok.mp refused
  obtain ⟨rest, restEnded, refused⟩ := Effect.bind_outcome_eq_ok.mp refused
  cases result with
  | ok read =>
      cases rest <;> cases refused
      exact othersReporting _ restEnded
  | error itemErrors =>
      have itemReports := firstReporting itemErrors ended
      cases rest <;> cases refused <;> simp [itemReports]

theorem gather {Item : Type} {read : Item → Run (Except (List FieldError) Read)}
    (reporting : ∀ item, IsReporting (read item)) (segment : Nat → Item → Value) (position : Nat)
    (items : List Item) : IsReporting (gather read segment position items) := by
  induction items generalizing position with
  | nil => exact .ok []
  | cons item rest ih => exact (reporting item).joined _ (ih (position + 1))

end IsReporting

mutual

theorem read_isReporting (strict : Bool) (type : FieldType) (value : Value) :
    IsReporting (read strict type value) := by
  cases type with
  | anything => exact .ok value
  | text least greatest => exact .here _
  | whole least greatest => exact .here _
  | real => exact .here _
  | flag => exact .here _
  | listOf item =>
      simp only [read]
      split
      · exact .error _
      · exact (IsReporting.gather (fun part => read_isReporting strict item part) _ _ _).map _
  | optional inner =>
      simp only [read]
      split
      · exact .ok _
      · exact read_isReporting strict inner value
  | after step inner =>
      refine .bind fun attempted => ?_
      cases attempted with
      | ok prepared => exact read_isReporting strict inner prepared
      | error fault => exact .bind fun said => .error _
  | record name fields =>
      simp only [read]
      split
      · split
        · exact .ok _
        · exact .error _
      · exact .error _
      · exact (readFields_isReporting strict _ fields).map _

theorem readFields_isReporting (strict : Bool) (entries : List (Value × Value))
    (fields : List (String × FieldType × Option Value)) :
    IsReporting (read.readFields strict entries fields) := by
  cases fields with
  | nil => exact .ok []
  | cons field rest =>
      obtain ⟨name, type, default⟩ := field
      rw [readFields_cons]
      refine IsReporting.joined _ (.map ?_ _) (readFields_isReporting strict entries rest)
      unfold readField
      split
      · exact read_isReporting strict type _
      · exact .ok _
      · exact .error _

end

end Record

/-- The verdict is no failure without issues. -/
def Verdict.IsReported (verdict : Verdict) : Prop :=
  ∀ failure, verdict = .err failure → failure.issues ≠ []

namespace Verdict

theorem isReported_ok (value : Value) : IsReported (.ok value) := by
  intro failure refused
  cases refused

theorem isReported_refuse (issue : Issue) : IsReported (refuse issue) := by
  intro failure refused
  cases refused
  exact List.cons_ne_nil _ _

theorem isReported_ofIssues (value : Value) (issues : List Issue) :
    IsReported (if issues.isEmpty then .ok value else .err { issues }) := by
  intro failure refused
  split at refused
  · cases refused
  · rename_i some
    cases refused
    simpa using some

end Verdict

namespace Validator

theorem checkString_reported (least greatest : Option Int) (value : Value) :
    (checkString least greatest value).IsReported := by
  unfold checkString
  split
  · simp only
    split
    · exact Verdict.isReported_refuse _
    · exact Verdict.isReported_refuse _
    · exact Verdict.isReported_ok _
  · exact Verdict.isReported_refuse _

theorem checkInteger_reported (value : Value) : (checkInteger value).IsReported := by
  unfold checkInteger
  split
  · exact Verdict.isReported_ok _
  · exact Verdict.isReported_refuse _

theorem checkNumber_reported (value : Value) : (checkNumber value).IsReported := by
  unfold checkNumber
  split
  · exact Verdict.isReported_ok _
  · exact Verdict.isReported_ok _
  · exact Verdict.isReported_refuse _

theorem checkBoolean_reported (value : Value) : (checkBoolean value).IsReported := by
  unfold checkBoolean
  split
  · exact Verdict.isReported_ok _
  · exact Verdict.isReported_refuse _

theorem checkLiteral_reported {expected value : Value} {verdict : Verdict}
    (returned : (checkLiteral expected value).outcome = .ok verdict) : verdict.IsReported := by
  unfold checkLiteral at returned
  split at returned
  · cases returned
  · split at returned
    · cases returned
      exact Verdict.isReported_ok _
    · obtain ⟨_, _, returned⟩ := Effect.bind_outcome_eq_ok.mp returned
      obtain ⟨_, _, returned⟩ := Effect.bind_outcome_eq_ok.mp returned
      cases returned
      exact Verdict.isReported_refuse _

theorem checkFormat_reported {format : Document.Format} {value : Value} {verdict : Verdict}
    (returned : (checkFormat format value).outcome = .ok verdict) : verdict.IsReported := by
  unfold checkFormat at returned
  split at returned
  · simp only at returned
    split at returned
    · cases returned
      exact Verdict.isReported_ok _
    · cases returned
      exact Verdict.isReported_refuse _
  · cases returned
    exact Verdict.isReported_refuse _

theorem checkNotCircular_reported (value : Value) : (checkNotCircular value).IsReported := by
  unfold checkNotCircular
  split
  · exact Verdict.isReported_refuse _
  · exact Verdict.isReported_refuse _
  · exact Verdict.isReported_ok _

theorem checkModel_reported {shape : Record.FieldType} {strict : Bool} {value : Value}
    {verdict : Verdict} (returned : (checkModel shape strict value).outcome = .ok verdict) :
    verdict.IsReported := by
  obtain ⟨result, read, returned⟩ := Effect.bind_outcome_eq_ok.mp returned
  cases result with
  | ok fitted =>
      cases returned
      exact Verdict.isReported_ok _
  | error errors =>
      cases returned
      intro failure failureEq
      cases failureEq
      simpa using Record.read_isReporting strict shape value errors read

theorem applyStep_reported {step : Value → Run Reply} {value : Value} {verdict : Verdict}
    (returned : (applyStep step value).outcome = .ok verdict) : verdict.IsReported := by
  unfold applyStep at returned
  obtain ⟨reply, _, returned⟩ := Effect.bind_outcome_eq_ok.mp returned
  split at returned
  · obtain ⟨issue, _, returned⟩ := Effect.bind_outcome_eq_ok.mp returned
    cases returned
    exact Verdict.isReported_refuse _
  · cases returned
    exact Verdict.isReported_ok _
  · cases returned
    exact Verdict.isReported_refuse _
  · obtain ⟨message, _, returned⟩ := Effect.bind_outcome_eq_ok.mp returned
    cases returned
    exact Verdict.isReported_refuse _
  · cases returned

theorem applyCheck_reported {check : Value → Run Value} {message : String} {code : IssueCode}
    {fatal : Bool} {value : Value} {verdict : Verdict}
    (returned : (applyCheck check message code fatal value).outcome = .ok verdict) :
    verdict.IsReported := by
  unfold applyCheck at returned
  obtain ⟨answer, _, returned⟩ := Effect.bind_outcome_eq_ok.mp returned
  split at returned
  · obtain ⟨issue, _, returned⟩ := Effect.bind_outcome_eq_ok.mp returned
    cases returned
    exact Verdict.isReported_refuse _
  · split at returned
    · cases returned
      exact Verdict.isReported_ok _
    · cases returned
      exact Verdict.isReported_refuse _

theorem chained_reported {first : Run Verdict} {next : Value → Run Verdict} {verdict : Verdict}
    (returned : (first >>= fun verdict => verdict.andThen next).outcome = .ok verdict)
    (earlier : ∀ verdict, first.outcome = .ok verdict → verdict.IsReported)
    (later : ∀ value verdict, (next value).outcome = .ok verdict → verdict.IsReported) :
    verdict.IsReported := by
  obtain ⟨firstVerdict, firstReturned, returned⟩ := Effect.bind_outcome_eq_ok.mp returned
  cases firstVerdict with
  | ok accepted => exact later accepted verdict returned
  | err failure =>
      cases returned
      exact earlier _ firstReturned

theorem fallback_reported {inner : Validator} {sink : Sink} {input : Value} {verdict : Verdict}
    (returned : ((Validator.fallback inner sink).run input).outcome = .ok verdict)
    (earlier : ∀ verdict, (inner.run input).outcome = .ok verdict → verdict.IsReported) :
    verdict.IsReported := by
  rw [run_fallback] at returned
  obtain ⟨innerVerdict, innerReturned, returned⟩ := Effect.bind_outcome_eq_ok.mp returned
  cases innerVerdict with
  | ok accepted =>
      cases returned
      exact Verdict.isReported_ok _
  | err failure =>
      simp only [recover] at returned
      split at returned
      · cases returned
        exact earlier _ innerReturned
      · obtain ⟨_, _, returned⟩ := Effect.bind_outcome_eq_ok.mp returned
        cases returned
        exact Verdict.isReported_ok _

theorem arrayOf_reported {check : Value → Run Verdict} {value : Value} {verdict : Verdict}
    (returned : (arrayOf check value).outcome = .ok verdict) : verdict.IsReported := by
  unfold arrayOf at returned
  split at returned
  · cases returned
    exact Verdict.isReported_refuse _
  · obtain ⟨_, _, returned⟩ := Effect.bind_outcome_eq_ok.mp returned
    cases returned
    exact Verdict.isReported_ofIssues _ _

theorem recordOf_reported {checkKey checkValue : Value → Run Verdict} {value : Value}
    {verdict : Verdict} (returned : (recordOf checkKey checkValue value).outcome = .ok verdict) :
    verdict.IsReported := by
  unfold recordOf at returned
  split at returned
  · cases returned
    exact Verdict.isReported_refuse _
  · obtain ⟨_, _, returned⟩ := Effect.bind_outcome_eq_ok.mp returned
    cases returned
    exact Verdict.isReported_ofIssues _ _

theorem looseArrayOf_reported {check : Value → Run Verdict} {onError : Option Sink} {value : Value}
    {verdict : Verdict} (returned : (looseArrayOf check onError value).outcome = .ok verdict) :
    verdict.IsReported := by
  unfold looseArrayOf at returned
  split at returned
  · cases returned
    exact Verdict.isReported_refuse _
  · split at returned
    · obtain ⟨_, _, returned⟩ := Effect.bind_outcome_eq_ok.mp returned
      cases returned
      exact Verdict.isReported_ok _
    · obtain ⟨_, _, returned⟩ := Effect.bind_outcome_eq_ok.mp returned
      obtain ⟨_, _, returned⟩ := Effect.bind_outcome_eq_ok.mp returned
      cases returned
      exact Verdict.isReported_ok _

theorem looseRecordOf_reported {checkKey checkValue : Value → Run Verdict} {onError : Option Sink}
    {value : Value} {verdict : Verdict}
    (returned : (looseRecordOf checkKey checkValue onError value).outcome = .ok verdict) :
    verdict.IsReported := by
  unfold looseRecordOf at returned
  split at returned
  · cases returned
    exact Verdict.isReported_refuse _
  · split at returned
    · obtain ⟨_, _, returned⟩ := Effect.bind_outcome_eq_ok.mp returned
      cases returned
      exact Verdict.isReported_ok _
    · obtain ⟨_, _, returned⟩ := Effect.bind_outcome_eq_ok.mp returned
      obtain ⟨_, _, returned⟩ := Effect.bind_outcome_eq_ok.mp returned
      cases returned
      exact Verdict.isReported_ok _

theorem run_reported (validator : Validator) {input : Value} {verdict : Verdict}
    (returned : (validator.run input).outcome = .ok verdict) : verdict.IsReported := by
  -- Leaves refuse with one issue, collections with those of their parts. The rest hands failures on
  -- or makes one of a single issue.
  induction validator generalizing input verdict with
  | string least greatest => cases returned; exact checkString_reported least greatest input
  | integer => cases returned; exact checkInteger_reported input
  | number => cases returned; exact checkNumber_reported input
  | boolean => cases returned; exact checkBoolean_reported input
  | unknown => cases returned; exact Verdict.isReported_ok _
  | literal expected => exact checkLiteral_reported returned
  | format reader => exact checkFormat_reported returned
  | notCircular => cases returned; exact checkNotCircular_reported input
  | model shape strict => exact checkModel_reported returned
  | transform inner step ih =>
      rw [run_transform] at returned
      exact chained_reported returned (fun _ => ih) fun _ _ => applyStep_reported
  | pipe first second ihFirst ihSecond =>
      rw [run_pipe] at returned
      exact chained_reported returned (fun _ => ihFirst) fun _ _ => ihSecond
  | refine inner check message code fatal ih =>
      rw [run_refine] at returned
      exact chained_reported returned (fun _ => ih) fun _ _ => applyCheck_reported
  | fallback inner sink ih => exact fallback_reported returned fun _ => ih
  | array element ih =>
      rw [run_array] at returned
      exact arrayOf_reported returned
  | record value key ihValue ihKey =>
      rw [run_record] at returned
      exact recordOf_reported returned
  | looseArray element onError ih =>
      rw [run_looseArray] at returned
      exact looseArrayOf_reported returned
  | looseRecord value key onError ihValue ihKey =>
      rw [run_looseRecord] at returned
      exact looseRecordOf_reported returned

end Validator
end TolerantValidation
