import Mathlib.Data.List.Forall2
import TolerantValidation.Record.Coercion
import TolerantValidation.Proofs.Effect
import TolerantValidation.Proofs.Value.Arrangement
import TolerantValidation.Proofs.Value.Filling
import TolerantValidation.Proofs.Value.Nesting

/-!
What fields hold after reading: values of the very type, within the bounds, whatever they were read
from. Such a value is read as itself, also when its records are given as mappings of their fields.
-/

namespace TolerantValidation

namespace Value

end Value

namespace Record

/-- The value is of the very type, with lengths and numbers within the bounds, and records with
exactly the fields of their shape, in order. -/
inductive Fits : FieldType → Value → Prop
  | text {least greatest characters} : checkPairs characters = .ok characters →
      (∀ bound ∈ least, bound ≤ String.length characters) →
      (∀ bound ∈ greatest, characters.length ≤ bound) →
      Fits (.text least greatest) (.text characters)
  | whole {least greatest whole} : (∀ bound ∈ least, bound ≤ whole) →
      (∀ bound ∈ greatest, whole ≤ bound) → Fits (.whole least greatest) (.int whole)
  | real (number : Binary64) : Fits .real (.float number)
  | flag (flag : Bool) : Fits .flag (.bool flag)
  | listOf {item items} : (∀ value ∈ items, Fits item value) → Fits (.listOf item) (.list items)
  | absent (inner : FieldType) : Fits (.optional inner) .null
  | present {inner value} : Fits inner value → Fits (.optional inner) value
  | after {step inner value} : Fits inner value → Fits (.after step inner) value
  | record {name fields values} : values.map Prod.fst = fields.map Prod.fst →
      (∀ place ∈ fields.zip values, Fits place.1.2.1 place.2.2) →
      Fits (.record name fields) (.record name values)

/-- Each instance of one of the models that the value holds fits its model. -/
def InstancesFit (models : List FieldType) (value : Value) : Prop :=
  ∀ name fields values, .record name fields ∈ models → value.Occurs (.record name values) →
    Fits (.record name fields) (.record name values)

theorem InstancesFit.part {models : List FieldType} {value part : Value}
    (instances : InstancesFit models value) (member : part ∈ value.parts) :
    InstancesFit models part :=
  fun name fields values known occurs =>
    instances name fields values known ((Value.Occurs.self.part member).trans occurs)

section Reading

theorem bind_eq_ok_iff {Fault Read Next : Type} {result : Except Fault Read}
    {next : Read → Except Fault Next} {final : Next} :
    result >>= next = .ok final ↔ ∃ read, result = .ok read ∧ next read = .ok final := by
  cases result with
  | error fault => exact ⟨nofun, by rintro ⟨_, ⟨⟩, _⟩⟩
  | ok value => exact ⟨fun goesOn => ⟨value, rfl, goesOn⟩, by rintro ⟨_, ⟨⟩, goesOn⟩; exact goesOn⟩

theorem joined_eq_ok_iff {Read : Type} {segment : Value} {first : Except (List FieldError) Read}
    {others : Except (List FieldError) (List Read)} {results : List Read} :
    joined segment first others = .ok results ↔
      ∃ result rest, first = .ok result ∧ others = .ok rest ∧ result :: rest = results := by
  cases first <;> cases others <;> simp [joined]

theorem bind_joined_outcome_eq_ok {Read : Type} {segment : Value}
    {first : Run (Except (List FieldError) Read)}
    {others : Run (Except (List FieldError) (List Read))}
    {results : List Read} :
    (do
      let result ← first
      let rest ← others
      pure (joined segment result rest) : Run _).outcome = .ok (.ok results) ↔
      ∃ result rest, first.outcome = .ok (.ok result) ∧ others.outcome = .ok (.ok rest) ∧
        result :: rest = results := by
  simp only [Effect.bind_outcome_eq_ok, Effect.pure_outcome, Except.ok.injEq, joined_eq_ok_iff]
  constructor
  · rintro ⟨_, firstRead, _, othersRead, result, rest, rfl, rfl, same⟩
    exact ⟨result, rest, firstRead, othersRead, same⟩
  · rintro ⟨result, rest, firstRead, othersRead, same⟩
    exact ⟨_, firstRead, _, othersRead, result, rest, rfl, rfl, same⟩

theorem bind_map_outcome_eq_ok {Read Next : Type} {first : Run (Except (List FieldError) Read)}
    {change : Read → Next} {final : Next} :
    (first >>= fun read => pure (read.map change)).outcome = .ok (.ok final) ↔
      ∃ read, first.outcome = .ok (.ok read) ∧ change read = final := by
  simp only [Effect.bind_outcome_eq_ok, Effect.pure_outcome, Except.ok.injEq]
  constructor
  · rintro ⟨result, firstRead, mapped⟩
    cases result with
    | error errors => cases mapped
    | ok read =>
        cases mapped
        exact ⟨read, firstRead, rfl⟩
  · rintro ⟨read, firstRead, rfl⟩
    exact ⟨_, firstRead, rfl⟩

def readField (strict : Bool) (entries : List (Value × Value))
    (field : String × FieldType × Option Value) : Run (Except (List FieldError) Value) :=
  match Value.get? (.text field.1) entries, field.2.2 with
  | some value, _ => read strict field.2.1 value
  | none, some value => pure (.ok value)
  | none, none => pure (.error [⟨[], .missing⟩])

theorem readFields_cons (strict : Bool) (entries : List (Value × Value))
    (field : String × FieldType × Option Value)
    (rest : List (String × FieldType × Option Value)) :
    read.readFields strict entries (field :: rest) = (do
      let result ← readField strict entries field >>= fun value => pure (value.map (field.1, ·))
      let others ← read.readFields strict entries rest
      pure (joined (.text field.1) result others)) := by
  obtain ⟨name, type, default⟩ := field
  simp only [read.readFields, bind_assoc, pure_bind]
  rfl

theorem paired_of_names {Spec Given : Type} {holds : (String × Spec) × String × Given → Prop}
    {fields : List (String × Spec)} {values : List (String × Given)}
    (names : values.map Prod.fst = fields.map Prod.fst)
    (each : ∀ place ∈ fields.zip values, holds place) :
    List.Forall₂ (fun field value => value.1 = field.1 ∧ holds (field, value)) fields values := by
  induction fields generalizing values with
  | nil => simpa using names
  | cons field rest ih =>
      cases values with
      | nil => simp at names
      | cons value others =>
          simp only [List.map_cons, List.cons.injEq] at names
          rw [List.zip_cons_cons, List.forall_mem_cons] at each
          exact .cons ⟨names.1, each.1⟩ (ih names.2 each.2)

end Reading

end Record
end TolerantValidation
