import TolerantValidation.Application.Boundary
import TolerantValidation.Proofs.Application.Wording
import TolerantValidation.Proofs.Validator.Literals

/-!
What a document boundary answers. An accepted document is handed on. A failure and a fault each
become an application error and one log entry that refers to it, if the texts in them can be
written.
-/

namespace TolerantValidation

namespace Named

variable {Item : Type}

theorem set_of_fresh {name : String} (item : Item) {items : Named Item}
    (fresh : name ∉ items.map Prod.fst) : set name item items = items ++ [(name, item)] := by
  induction items with
  | nil => rfl
  | cons field rest ih =>
      simp only [List.map_cons, List.mem_cons, not_or] at fresh
      rw [set, if_neg (Ne.symm fresh.1), ih fresh.2, List.cons_append]

theorem merge_singleton_of_fresh {name : String} (item : Item) {items : Named Item}
    (fresh : name ∉ items.map Prod.fst) : merge items [(name, item)] = items ++ [(name, item)] :=
  set_of_fresh item fresh

end Named

namespace Boundary

/-- Every text that is needed to report how a run ended can be written. -/
def CanReport : Except Fault Verdict → Prop
  | .ok (.ok _) => True
  | .ok (.err failure) => failure.HasFields
  | .error fault => IsWritten fault.display

def shown : Except Fault Verdict → List Value
  | .ok (.ok _) => []
  | .ok (.err failure) => failure.issues.flatMap (·.path)
  | .error fault => fault.shown

theorem canReport_of_isShowable {ended : Except Fault Verdict}
    (showable : ∀ value ∈ shown ended, value.IsShowable) : CanReport ended := by
  rcases ended with fault | (accepted | failure)
  · exact Fault.display_isWritten showable
  · trivial
  · apply FailureAt.hasFields_of_isShowable
    intro issue member segment inside
    exact showable segment (List.mem_flatMap.mpr ⟨issue, member, inside⟩)

def answer (boundary : Boundary) (correlationId : String) (metadata : Metadata) :
    Except Fault Verdict → Run (Outcome ApplicationError Value)
  | .ok (.ok accepted) => pure (.ok accepted)
  | .ok (.err failure) => do
    let error ← Run.ofText (ApplicationError.ofFailure correlationId failure boundary.origin)
    let error := error.withMetadata metadata
    let issues ← Run.ofText failure.flatValue
    Effect.log (entry .warning "document_validation_failed"
      (Named.merge
        [("origin", .text boundary.origin), ("error_id", .text error.errorId),
          ("category", .text error.code.category), ("issues", issues)] metadata))
    pure (.err error)
  | .error fault => do
    let crash ← Run.ofText
      (ApplicationError.ofFault correlationId fault .unexpectedError "" boundary.origin [])
    let crash := crash.withMetadata metadata
    Effect.log (entry .error "document_validation_crashed"
      (Named.merge
        [("origin", .text boundary.origin), ("error_id", .text crash.errorId),
          ("category", .text crash.code.category), ("error", .text crash.message)] metadata))
    pure (.err crash)

def failedEntry (error : ApplicationError) (issues : Value) (named : String × Value) : Log.Entry :=
  entry .warning "document_validation_failed"
    [("origin", .text error.origin), ("error_id", .text error.errorId),
      ("category", .text error.code.category), ("issues", issues), named]

def crashedEntry (error : ApplicationError) (named : String × Value) : Log.Entry :=
  entry .error "document_validation_crashed"
    [("origin", .text error.origin), ("error_id", .text error.errorId),
      ("category", .text error.code.category), ("error", .text error.message), named]

/-- What is told of a run is what the run ended with: an accepted value and nothing else, or an
error for the failure or the fault and one log entry about that error. Both name the input. -/
structure TellsFaithfully (boundary : Boundary) (correlationId : String) (ran : Run Verdict)
    (named : String × Value) (told : Run (Outcome ApplicationError Value)) : Prop where
  accepted_iff : ∀ value, told.outcome = .ok (.ok value) ↔ ran.outcome = .ok (.ok value)
  silent : ∀ value, ran.outcome = .ok (.ok value) → told.events = ran.events
  failed : ∀ failure, ran.outcome = .ok (.err failure) → failure.HasFields →
    ∃ code message metadata issues,
      ApplicationError.StandsFor failure code message metadata ∧ failure.flatValue = .ok issues ∧
      let error : ApplicationError :=
        { code, message, origin := boundary.origin, correlationId, metadata := metadata ++ [named] }
      told = ⟨ran.events ++ [.logged (failedEntry error issues named)], .ok (.err error)⟩
  crashed : ∀ fault message, ran.outcome = .error fault → fault.display = .ok message →
    let error : ApplicationError :=
      { code := .unexpectedError, message, origin := boundary.origin, correlationId
        metadata := [named], cause := some fault }
    told = ⟨ran.events ++ [.logged (crashedEntry error named)], .ok (.err error)⟩

section Answers

variable (boundary : Boundary) (correlationId : String) (validator : Validator) (input : Value)
variable (metadata : Metadata)

theorem check_eq :
    boundary.check correlationId validator input metadata =
      (validator.run input).attempt >>= boundary.answer correlationId metadata := by
  rw [check, ApplicationError.capture, bind_assoc]
  congr
  funext ended
  rcases ended with fault | (accepted | failure)
  · simp only [answer, bind_assoc, pure_bind]
  · rfl
  · rfl

theorem check_events_outcome :
    boundary.check correlationId validator input metadata =
      let told := boundary.answer correlationId metadata (validator.run input).outcome
      ⟨(validator.run input).events ++ told.events, told.outcome⟩ := by
  rw [check_eq]
  rfl

variable {boundary correlationId validator input metadata}

theorem ofText_eq_pure {Shown : Type} {result : Except TextFault Shown} {shown : Shown}
    (written : result = .ok shown) : Run.ofText result = pure shown := by
  rw [written]
  rfl

theorem ofFault_eq {fault : Fault} {message : String} (display : fault.display = .ok message) :
    ApplicationError.ofFault correlationId fault .unexpectedError "" boundary.origin [] =
      .ok { code := .unexpectedError, message, origin := boundary.origin, correlationId
            metadata := [], cause := some fault } := by
  have noMessage : ("" : String).isEmpty = true := by decide
  simp only [ApplicationError.ofFault, noMessage, if_true, display]
  rfl

theorem ofFault_isWritten_iff {fault : Fault} :
    IsWritten
        (ApplicationError.ofFault correlationId fault .unexpectedError "" boundary.origin []) ↔
      IsWritten fault.display := by
  have noMessage : ("" : String).isEmpty = true := by decide
  simp only [ApplicationError.ofFault, noMessage, if_true]
  exact isWritten_bind_iff fun _ => isWritten_ok _

theorem check_answers_iff :
    (boundary.check correlationId validator input metadata).Answers ↔
      CanReport (validator.run input).outcome := by
  rw [check_events_outcome]
  show (boundary.answer correlationId metadata (validator.run input).outcome).Answers ↔ _
  rcases (validator.run input).outcome with fault | (accepted | failure)
  · show _ ↔ IsWritten fault.display
    rw [answer, Effect.bind_answers, ← ofFault_isWritten_iff, ← ofText_answers_iff]
    constructor
    · rintro ⟨crash, written, _⟩
      exact ⟨crash, written⟩
    · rintro ⟨crash, written⟩
      exact ⟨crash, written, _, rfl⟩
  · exact ⟨fun _ => trivial, fun _ => Effect.pure_answers _⟩
  · show _ ↔ failure.HasFields
    rw [answer, Effect.bind_answers, ← ApplicationError.ofFailure_isWritten_iff,
      ← ofText_answers_iff]
    constructor
    · rintro ⟨error, written, _⟩
      exact ⟨error, written⟩
    · rintro ⟨error, written⟩
      have hasFields := ApplicationError.ofFailure_isWritten_iff.mp
        (ofText_answers_iff.mp ⟨error, written⟩)
      obtain ⟨issues, flat⟩ := FailureAt.flatValue_isWritten_iff.mpr hasFields
      refine ⟨error, written, ?_⟩
      rw [ofText_eq_pure flat, pure_bind]
      exact ⟨_, rfl⟩

theorem fault_of_ofText {Shown : Type} {result : Except TextFault Shown} {fault : Fault}
    (stopped : (Run.ofText result).outcome = .error fault) :
    ∃ unwritten, fault = .text unwritten := by
  cases result with
  | ok shown => cases stopped
  | error unwritten =>
      cases stopped
      exact ⟨unwritten, rfl⟩

theorem fault_of_check {fault : Fault}
    (stopped : (boundary.check correlationId validator input metadata).outcome = .error fault) :
    ∃ unwritten, fault = .text unwritten := by
  rw [check_events_outcome] at stopped
  change (boundary.answer correlationId metadata _).outcome = _ at stopped
  rcases ended : (validator.run input).outcome with raised | (accepted | failure)
  · rw [ended, answer, Effect.bind_outcome_eq_error] at stopped
    rcases stopped with unwritten | ⟨crash, _, ⟨⟩⟩
    exact fault_of_ofText unwritten
  · rw [ended] at stopped
    cases stopped
  · rw [ended, answer, Effect.bind_outcome_eq_error] at stopped
    rcases stopped with unwritten | ⟨error, _, stopped⟩
    · exact fault_of_ofText unwritten
    · rcases Effect.bind_outcome_eq_error.mp stopped with unwritten | ⟨issues, _, ⟨⟩⟩
      exact fault_of_ofText unwritten

def ownNames : List String :=
  ["field", "fatal", "error_count", "errors", "origin", "error_id", "category", "issues", "error"]

theorem answer_of_failed {failure : Failure} {code : ErrorCode} {message : String}
    {told : Metadata} {issues : Value}
    (standsFor : ApplicationError.StandsFor failure code message told)
    (flat : failure.flatValue = .ok issues) {named : String × Value} (other : named.1 ∉ ownNames) :
    let error : ApplicationError :=
      { code, message, origin := boundary.origin, correlationId, metadata := told ++ [named] }
    boundary.answer correlationId [named] (.ok (.err failure)) =
      ⟨[.logged (failedEntry error issues named)], .ok (.err error)⟩ := by
  intro error
  have merged : Named.merge told [named] = told ++ [named] := by
    apply Named.merge_singleton_of_fresh
    cases standsFor <;> (simp only [ownNames, List.mem_cons, not_or] at other; simp [other])
  simp only [answer, ofText_eq_pure (ApplicationError.ofFailure_eq_of_standsFor standsFor),
    ofText_eq_pure flat, pure_bind, ApplicationError.withMetadata, merged]
  rw [Named.merge_singleton_of_fresh]
  · rfl
  · simp only [ownNames, List.mem_cons, not_or] at other
    simp [other]

theorem answer_of_crashed {fault : Fault} {message : String} (display : fault.display = .ok message)
    {named : String × Value} (other : named.1 ∉ ownNames) :
    let error : ApplicationError :=
      { code := .unexpectedError, message, origin := boundary.origin, correlationId
        metadata := [named], cause := some fault }
    boundary.answer correlationId [named] (.error fault) =
      ⟨[.logged (crashedEntry error named)], .ok (.err error)⟩ := by
  intro error
  simp only [answer, ofText_eq_pure (ofFault_eq display), pure_bind, ApplicationError.withMetadata]
  rw [Named.merge_singleton_of_fresh]
  · rfl
  · simp only [ownNames, List.mem_cons, not_or] at other
    simp [other]

theorem check_tellsFaithfully {named : String × Value} (other : named.1 ∉ ownNames) :
    boundary.TellsFaithfully correlationId (validator.run input) named
      (boundary.check correlationId validator input [named]) := by
  have told := check_events_outcome boundary correlationId validator input [named]
  constructor
  · intro value
    rw [told]
    show (boundary.answer correlationId [named] (validator.run input).outcome).outcome = _ ↔ _
    rcases (validator.run input).outcome with fault | (accepted | failure)
    · constructor
      · intro accepted
        obtain ⟨crash, _, ⟨⟩⟩ := Effect.bind_outcome_eq_ok.mp accepted
      · rintro ⟨⟩
    · exact ⟨fun | rfl => rfl, fun | rfl => rfl⟩
    · constructor
      · intro accepted
        obtain ⟨error, _, accepted⟩ := Effect.bind_outcome_eq_ok.mp accepted
        obtain ⟨issues, _, ⟨⟩⟩ := Effect.bind_outcome_eq_ok.mp accepted
      · rintro ⟨⟩
  · intro value accepted
    rw [told, accepted]
    exact List.append_nil _
  · intro failure refused hasFields
    obtain ⟨code, message, metadata, standsFor⟩ := ApplicationError.exists_standsFor hasFields
    obtain ⟨issues, flat⟩ := FailureAt.flatValue_isWritten_iff.mpr hasFields
    refine ⟨code, message, metadata, issues, standsFor, flat, ?_⟩
    rw [told, refused, answer_of_failed standsFor flat other]
  · intro fault message raised display
    rw [told, raised, answer_of_crashed display other]

end Answers
end Boundary

end TolerantValidation
