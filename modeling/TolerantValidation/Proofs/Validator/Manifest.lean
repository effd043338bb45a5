import Mathlib.Data.Set.List
import TolerantValidation.Proofs.Record.Fitting
import TolerantValidation.Proofs.Validator.Conformance
import TolerantValidation.Validator.Manifest

/-!
What the models of a package manifest make of their input: instances within the declared bounds. The
mapping of such an instance's fields makes the same instance again.
-/

namespace TolerantValidation

namespace Validator

end Validator

namespace Record

theorem checkModel_eq_ok_iff {shape : FieldType} {strict : Bool} {value fitted : Value} :
    (Validator.checkModel shape strict value).outcome = .ok (.ok fitted) ↔
      (read strict shape value).outcome = .ok (.ok fitted) := by
  unfold Validator.checkModel
  rw [Effect.bind_outcome_eq_ok]
  constructor
  · rintro ⟨result, ended, returned⟩
    cases result <;> cases returned
    exact ended
  · exact fun ended => ⟨_, ended, rfl⟩

theorem checkModel_eq_err_iff {shape : FieldType} {strict : Bool} {value : Value}
    {failure : Failure} :
    (Validator.checkModel shape strict value).outcome = .ok (.err failure) ↔
      ∃ errors, (read strict shape value).outcome = .ok (.error errors) ∧
        failure = { issues := errors.map FieldError.toIssue } := by
  unfold Validator.checkModel
  rw [Effect.bind_outcome_eq_ok]
  constructor
  · rintro ⟨result, ended, returned⟩
    cases result <;> cases returned
    exact ⟨_, ended, rfl⟩
  · rintro ⟨errors, ended, rfl⟩
    exact ⟨_, ended, rfl⟩

def models : List FieldType := [dependency, package, manifest]

def dependencyOf (name version : String) : Value :=
  .record "Dependency" [("name", .text name), ("version", .text version)]

theorem Fits.paired {name : String} {fields : List (String × FieldType × Option Value)}
    {value : Value} (fits : Fits (.record name fields) value) :
    ∃ values, value = .record name values ∧
      List.Forall₂ (fun field value => value.1 = field.1 ∧ Fits field.2.1 value.2)
        fields values := by
  cases fits with
  | record names fits => exact ⟨_, rfl, paired_of_names names fits⟩

end Record

end TolerantValidation
