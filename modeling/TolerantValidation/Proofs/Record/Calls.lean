import TolerantValidation.Proofs.Record.Fitting

/-!
The caller's functions before fields. Reading a record calls them on what stands in the fields. It
ends without a fault where each call returns or says what is wrong with the field.
-/

namespace TolerantValidation

namespace Fault

/-- What the fault says is about a field: it is an error of a value or a failed assertion, in a text
that can be written in octets. -/
def IsAboutField (fault : Fault) : Prop :=
  (fault.isValueError = true ∨ fault.kind = "AssertionError") ∧
    ∀ shown, fault.display = .ok shown → shown.toList.any Text.isUnpairedSurrogate = false

theorem IsAboutField.display {fault : Fault} (about : fault.IsAboutField) :
    ∃ shown, fault.display = .ok shown := by
  obtain ⟨isKind, _⟩ := about
  cases fault with
  | rejected failure => simp [isValueError, kind] at isKind
  | missingKey key => simp [isValueError, kind] at isKind
  | pattern fault => cases fault <;> exact ⟨_, rfl⟩
  | _ => exact ⟨_, rfl⟩

end Fault

namespace Record

/-- Reading the value as the type calls the function with what is given. -/
inductive Calls (strict : Bool) : FieldType → Value → (Value → Run Value) → Value → Prop
  | step {step inner value} : Calls strict (.after step inner) value step value
  | behind {step inner value prepared called given} : (step value).outcome = .ok prepared →
      Calls strict inner prepared called given → Calls strict (.after step inner) value called given
  | item {type value items item called given} : readItems strict value = .ok items →
      item ∈ items → Calls strict type item called given →
      Calls strict (.listOf type) value called given
  | present {inner value called given} : Calls strict inner value called given →
      Calls strict (.optional inner) value called given
  | field {name fields value entries field inside called given} : value.entries? = some entries →
      field ∈ fields → Value.get? (.text field.1) entries = some inside →
      Calls strict field.2.1 inside called given →
      Calls strict (.record name fields) value called given

theorem ofFault_answers {fault : Fault} (about : fault.IsAboutField) :
    (FieldFault.ofFault fault).Answers := by
  obtain ⟨shown, displayed⟩ := about.display
  obtain ⟨isKind, writable⟩ := about
  have said : ∀ field : String → FieldFault, (do
      let text ← Run.ofText fault.display
      if text.toList.any Text.isUnpairedSurrogate then throw (.unpairedSurrogate text)
      else pure (field text) : Run FieldFault).Answers := by
    intro field
    refine Effect.bind_answers.mpr ⟨shown, by rw [displayed]; rfl, ?_⟩
    rw [if_neg (by simp [writable shown displayed])]
    exact Effect.pure_answers _
  unfold FieldFault.ofFault
  split
  · exact said .raised
  · rename_i noValueError
    rw [if_pos (isKind.resolve_left noValueError)]
    exact said .asserted

theorem bind_joined_answers {Read : Type} {segment : Value}
    {first : Run (Except (List FieldError) Read)}
    {others : Run (Except (List FieldError) (List Read))} (firstAnswers : first.Answers)
    (othersAnswer : others.Answers) :
    (do
      let result ← first
      let rest ← others
      pure (joined segment result rest) : Run _).Answers := by
  obtain ⟨result, ended⟩ := firstAnswers
  exact Effect.bind_answers.mpr ⟨result, ended, Effect.bind_pure_answers.mpr othersAnswer⟩

theorem gather_answers {Item Read : Type} {read : Item → Run (Except (List FieldError) Read)}
    {segment : Nat → Item → Value} {position : Nat} {items : List Item}
    (answers : ∀ item ∈ items, (read item).Answers) :
    (gather read segment position items).Answers := by
  induction items generalizing position with
  | nil => exact Effect.pure_answers _
  | cons item rest ih =>
      obtain ⟨itemAnswers, restAnswer⟩ := List.forall_mem_cons.mp answers
      exact bind_joined_answers itemAnswers (ih restAnswer)

mutual

/-- A value is read without a fault if each call on the way returns or is about its field. -/
theorem read_answers {strict : Bool} (type : FieldType) {value : Value}
    (about : ∀ called given fault, Calls strict type value called given →
      (called given).outcome = .error fault → fault.IsAboutField) :
    (read strict type value).Answers := by
  cases type with
  | anything => exact Effect.pure_answers _
  | text least greatest => exact Effect.pure_answers _
  | whole least greatest => exact Effect.pure_answers _
  | real => exact Effect.pure_answers _
  | flag => exact Effect.pure_answers _
  | listOf item =>
      simp only [read]
      split
      · exact Effect.pure_answers _
      · rename_i items taken
        refine Effect.bind_pure_answers.mpr (gather_answers fun part member => ?_)
        exact read_answers item fun called given fault calls =>
          about called given fault (.item taken member calls)
  | optional inner =>
      simp only [read]
      split
      · exact Effect.pure_answers _
      · exact read_answers inner fun called given fault calls =>
          about called given fault (.present calls)
  | after step inner =>
      refine Effect.bind_answers.mpr ⟨_, rfl, ?_⟩
      cases stepped : (step value).outcome with
      | ok prepared =>
          exact read_answers inner fun called given fault calls =>
            about called given fault (.behind stepped calls)
      | error fault =>
          exact Effect.bind_pure_answers.mpr
            (ofFault_answers (about step value fault .step stepped))
  | record name fields =>
      simp only [read]
      split
      · exact Effect.pure_answers _
      · exact Effect.pure_answers _
      · rename_i entries _ mapping
        refine Effect.bind_pure_answers.mpr (readFields_answers fields ?_)
        intro field member inside found called given fault calls
        exact about called given fault (.field mapping member found calls)

theorem readFields_answers {strict : Bool} {entries : List (Value × Value)}
    (fields : List (String × FieldType × Option Value))
    (about : ∀ field ∈ fields, ∀ inside, Value.get? (.text field.1) entries = some inside →
      ∀ called given fault, Calls strict field.2.1 inside called given →
        (called given).outcome = .error fault → fault.IsAboutField) :
    (read.readFields strict entries fields).Answers := by
  cases fields with
  | nil => exact Effect.pure_answers _
  | cons field rest =>
      obtain ⟨name, type, default⟩ := field
      obtain ⟨fieldAbout, restAbout⟩ := List.forall_mem_cons.mp about
      rw [readFields_cons]
      refine bind_joined_answers (Effect.bind_pure_answers.mpr ?_)
        (readFields_answers rest restAbout)
      unfold readField
      cases found : Value.get? (.text name) entries with
      | some inside => exact read_answers type (fieldAbout inside found)
      | none => cases default <;> exact Effect.pure_answers _

end

end Record
end TolerantValidation
