import TolerantValidation.Proofs.Application.Boundary

/-!
Document boundaries as their callers see them. What a run ended with is told as it is; and a
boundary gives an answer exactly if the texts that its report needs can be written, so a key that
has no text still gets through as a fault.
-/

namespace TolerantValidation

namespace Boundary

variable (boundary : Boundary) (correlationId : String)

theorem parseFile_of_format {filename : String} {format : Document.Format}
    (known : formatOf? filename = some format) (content : Value) :
    boundary.parseFile correlationId content filename =
      boundary.check correlationId (.pipe (.format format) boundary.validator) content
        [("filename", .text filename)] := by
  unfold parseFile
  split
  · rename_i unknown
    rw [known] at unknown
    cases unknown
  · rename_i same
    rw [known] at same
    cases same
    rfl

theorem parseFile_of_unknown {filename : String} (unknown : formatOf? filename = none)
    (content : Value) :
    boundary.parseFile correlationId content filename =
      ⟨[], .ok (.err
        { code := .invalidFormat
          message := "Invalid format for '" ++ filename ++ "': expected " ++ expectedFormats
          origin := boundary.origin, correlationId
          metadata :=
            [("field", .text filename), ("expected_format", .text expectedFormats)] })⟩ := by
  unfold parseFile
  split
  · rfl
  · rename_i known
    rw [unknown] at known
    cases known

theorem parseExternal_of_unwritten {data : Value} {issue : Issue} {fault : TextFault}
    (refused : (boundary.validator.run data).outcome = .ok (.err { issues := [issue] }))
    (unwritten : issue.field = .error fault) (service : String) :
    (boundary.parseExternal correlationId data service).outcome = .error (.text fault) := by
  rw [parseExternal, check_events_outcome, refused]
  simp only [answer, ApplicationError.ofFailure, unwritten]
  rfl

end Boundary

theorem Value.display_int (whole : Int) :
    (Value.int whole).display = (wholeText whole).map String.ofList := by
  have notation_ : notationWithin writingLimit [] (.int whole) = wholeText whole := by
    simp only [writingLimit, notationWithin, isAround, cellNumber?, view, Bool.false_eq_true,
      if_false]
  rw [← notation_]
  rfl

theorem Value.display_int_of_long {whole : Int} (long : ¬ whole.natAbs < Nat.pow 10 digitLimit) :
    (Value.int whole).display = .error .tooManyDigits := by
  rw [display_int, wholeText, if_neg long]
  rfl

theorem Value.display_int_isWritten_iff {whole : Int} :
    IsWritten (Value.int whole).display ↔ whole.natAbs < Nat.pow 10 digitLimit := by
  constructor
  · intro written
    by_contra long
    rw [display_int_of_long long] at written
    exact not_isWritten_error _ written
  · intro short
    rw [display_int, wholeText, if_pos short]
    exact isWritten_ok _

/-- A boundary tells faithfully what became of the data or the document: for every run whose failure
or fault shows no whole number with too many digits and nothing that nests too deep. -/
theorem boundary_reports_faithfully (boundary : Boundary) (correlationId : String) :
    (∀ data service, boundary.TellsFaithfully correlationId (boundary.validator.run data)
      ("service", .text service) (boundary.parseExternal correlationId data service)) ∧
    (∀ content filename format, Boundary.formatOf? filename = some format →
      boundary.TellsFaithfully correlationId
        ((Validator.pipe (.format format) boundary.validator).run content)
        ("filename", .text filename) (boundary.parseFile correlationId content filename)) ∧
    (∀ content filename, Boundary.formatOf? filename = none →
      boundary.parseFile correlationId content filename =
        ⟨[], .ok (.err
          { code := .invalidFormat
            message := "Invalid format for '" ++ filename ++ "': expected " ++
              Boundary.expectedFormats
            origin := boundary.origin, correlationId
            metadata :=
              [("field", .text filename),
                ("expected_format", .text Boundary.expectedFormats)] })⟩) ∧
    (∀ ended, (∀ value ∈ Boundary.shown ended, value.IsShowable) → Boundary.CanReport ended) ∧
    [IssueCode.invalidType, .invalidValue, .custom].map (·.errorCode.name) =
      ["E2004_INVALID_TYPE", "E2005_CONSTRAINT_VIOLATION", "E2000_VALIDATION_GENERIC"] := by
  refine ⟨?_, ?_, ?_, ?_, rfl⟩
  · intro data service
    exact Boundary.check_tellsFaithfully (by decide : "service" ∉ Boundary.ownNames)
  · intro content filename format known
    rw [boundary.parseFile_of_format correlationId known]
    exact Boundary.check_tellsFaithfully (by decide : "filename" ∉ Boundary.ownNames)
  · intro content filename unknown
    exact boundary.parseFile_of_unknown correlationId unknown content
  · exact fun ended showable => Boundary.canReport_of_isShowable showable

theorem boundary_reports_faithfully_of_bad_item :
    let boundary : Boundary := ⟨.array .integer, "gitlab"⟩
    let named := ("service", Value.text "gitlab")
    let error : ApplicationError :=
      { code := .invalidType, message := "[1]: Expected integer, got str", origin := "gitlab"
        correlationId := "0a1b2c3d"
        metadata := [("field", .text "[1]"), ("fatal", .bool false), named] }
    ∃ issues, boundary.parseExternal "0a1b2c3d" (.list [.int 1, .text "a"]) "gitlab" =
      ⟨[.logged (Boundary.failedEntry error issues named)], .ok (.err error)⟩ := by
  intro boundary named error
  have showable : ∀ value ∈ Boundary.shown (.ok (.err ⟨[⟨.invalidType,
      "Expected integer, got str", [.int 1], false⟩], "Validation failed"⟩)), value.IsShowable := by
    intro value member
    rw [List.mem_singleton.mp member]
    apply Value.isShowable_of_closed
    · intro part inside
      exact absurd inside (List.not_mem_nil)
    · rintro whole ⟨⟩
      decide +kernel
  obtain ⟨faithful, _, _, canReport, _⟩ := boundary_reports_faithfully boundary "0a1b2c3d"
  obtain ⟨code, message, metadata, issues, standsFor, flat, told⟩ :=
    (faithful (.list [.int 1, .text "a"]) "gitlab").failed _ rfl (canReport _ showable)
  refine ⟨issues, told.trans ?_⟩
  cases standsFor with
  | one only field =>
      cases only
      have path : IssueAt.field ⟨.invalidType, "Expected integer, got str", [.int 1], false⟩ =
          .ok "[1]" := by decide +kernel
      cases path.symm.trans field
      rfl
  | several notOne => exact absurd rfl notOne

/-- A key that nests too deep to be shown keeps the boundary from telling of the value under it. -/
theorem deep_key_escapes_boundary :
    let boundary : Boundary := { validator := .record .integer .unknown }
    let key := (Value.int 1).tupled 5000
    (boundary.validator.run (.mapping [(key, .text "x")])).outcome =
        .ok (.err { issues := [(IssueAt.wrongType "integer" (.text "x")).below key] }) ∧
      key.HasShortIntegers ∧
      (boundary.parseExternal "0a1b2c3d" (.mapping [(key, .text "x")]) "external").outcome =
        .error (.text .tooDeep) := by
  intro boundary key
  have refused : (boundary.validator.run (.mapping [(key, .text "x")])).outcome =
      .ok (.err { issues := [(IssueAt.wrongType "integer" (.text "x")).below key] }) := rfl
  refine ⟨refused, ?_, ?_⟩
  · intro whole occurs
    obtain ⟨less, same⟩ := Value.occurs_tupled rfl occurs
    cases less with
    | succ less => cases same
    | zero =>
        cases same
        decide +kernel
  · apply boundary.parseExternal_of_unwritten _ refused
    exact Value.pathText_of_undisplayed (Value.display_tupled _ (by decide)) []

/-- A boundary gives an answer exactly if every path of the failure has a text, or the fault has
one; whole numbers do up to the limit of digits. Otherwise the fault says why there is no text. -/
theorem boundary_answers_iff_report_written (boundary : Boundary) (correlationId : String) :
    (∀ data service, (boundary.parseExternal correlationId data service).Answers ↔
      Boundary.CanReport (boundary.validator.run data).outcome) ∧
    (∀ content filename, (boundary.parseFile correlationId content filename).Answers ↔
      ∀ format, Boundary.formatOf? filename = some format →
        Boundary.CanReport
          ((Validator.pipe (.format format) boundary.validator).run content).outcome) ∧
    (∀ data service fault,
      (boundary.parseExternal correlationId data service).outcome = .error fault →
        fault = .text .tooManyDigits ∨ fault = .text .tooDeep) ∧
    (∀ content filename fault,
      (boundary.parseFile correlationId content filename).outcome = .error fault →
        fault = .text .tooManyDigits ∨ fault = .text .tooDeep) ∧
    (∀ text, IsWritten (Value.text text).display) ∧
    ∀ whole, IsWritten (Value.int whole).display ↔ whole.natAbs < Nat.pow 10 digitLimit := by
  refine ⟨?_, ?_, ?_, ?_, ?_, ?_⟩
  · exact fun data service => Boundary.check_answers_iff
  · intro content filename
    cases known : Boundary.formatOf? filename with
    | none =>
        rw [boundary.parseFile_of_unknown correlationId known]
        exact ⟨fun _ _ => nofun, fun _ => ⟨_, rfl⟩⟩
    | some format =>
        rw [boundary.parseFile_of_format correlationId known, Boundary.check_answers_iff]
        constructor
        · rintro told _ ⟨⟩
          exact told
        · exact fun told => told format rfl
  · intro data service fault stopped
    obtain ⟨unwritten, rfl⟩ := Boundary.fault_of_check stopped
    cases unwritten <;> simp
  · intro content filename fault stopped
    cases known : Boundary.formatOf? filename with
    | none =>
        rw [boundary.parseFile_of_unknown correlationId known] at stopped
        cases stopped
    | some format =>
        rw [boundary.parseFile_of_format correlationId known] at stopped
        obtain ⟨unwritten, rfl⟩ := Boundary.fault_of_check stopped
        cases unwritten <;> simp
  · exact fun text => isWritten_ok text
  · exact fun whole => Value.display_int_isWritten_iff

/-- A whole number with too many digits keeps the boundary from telling of the value under it. -/
theorem long_key_escapes_boundary :
    let boundary : Boundary := { validator := .record (.string none none) .unknown }
    let key := Value.int (Nat.pow 16 4000)
    (boundary.parseExternal "0a1b2c3d" (.mapping [(key, .int 1)]) "external").outcome =
      .error (.text .tooManyDigits) := by
  intro boundary key
  have refused : (boundary.validator.run (.mapping [(key, .int 1)])).outcome =
      .ok (.err { issues := [(IssueAt.wrongType "string" (.int 1)).below key] }) := rfl
  apply boundary.parseExternal_of_unwritten _ refused
  exact Value.pathText_of_undisplayed (Value.display_int_of_long (by decide +kernel)) []

theorem boundary_answers_iff_report_written_of_whole_keys :
    let boundary : Boundary := { validator := .record (.string none none) .unknown }
    let told (key : Int) := boundary.parseExternal "0a1b2c3d" (.mapping [(.int key, .int 1)]) "api"
    (told 16).Answers ∧ ¬ (told (Nat.pow 16 4000)).Answers := by
  intro boundary told
  obtain ⟨answers_iff, _, _, _, _, written_iff⟩ :=
    boundary_answers_iff_report_written boundary "0a1b2c3d"
  constructor
  · refine (answers_iff _ _).mpr ?_
    intro issue member segment inside
    cases List.mem_singleton.mp member
    cases List.mem_singleton.mp inside
    exact (written_iff 16).mpr (by decide +kernel)
  · intro answers
    have hasFields := (answers_iff _ _).mp answers
    have written := hasFields _ (List.mem_singleton.mpr rfl) _ (List.mem_singleton.mpr rfl)
    exact absurd ((written_iff _).mp written) (by decide +kernel)

end TolerantValidation
