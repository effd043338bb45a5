import TolerantValidation.Outcome

/-!
Laws of effects: how the answer and the events of a computation come from its parts.
-/

namespace TolerantValidation

namespace Effect

variable {Stop Answer Next : Type}

def Answers (effect : Effect Stop Answer) : Prop :=
  ∃ answer, effect.outcome = .ok answer

theorem eq_of_events_outcome {left right : Effect Stop Answer}
    (events : left.events = right.events) (outcome : left.outcome = right.outcome) :
    left = right := by
  rcases left with ⟨leftEvents, leftOutcome⟩
  rcases right with ⟨rightEvents, rightOutcome⟩
  simp only at events outcome
  rw [events, outcome]

theorem bind_outcome_eq_ok {first : Effect Stop Answer} {next : Answer → Effect Stop Next}
    {answer : Next} :
    (first >>= next).outcome = .ok answer ↔
      ∃ value, first.outcome = .ok value ∧ (next value).outcome = .ok answer := by
  cases outcome : first.outcome with
  | error fault => simp [bind_error outcome]
  | ok value => simp [bind_ok outcome]

theorem bind_outcome_eq_error {first : Effect Stop Answer} {next : Answer → Effect Stop Next}
    {fault : Stop} :
    (first >>= next).outcome = .error fault ↔
      first.outcome = .error fault ∨
        ∃ value, first.outcome = .ok value ∧ (next value).outcome = .error fault := by
  cases outcome : first.outcome with
  | error other => simp [bind_error outcome]
  | ok value => simp [bind_ok outcome]

theorem bind_answers {first : Effect Stop Answer} {next : Answer → Effect Stop Next} :
    (first >>= next).Answers ↔ ∃ value, first.outcome = .ok value ∧ (next value).Answers := by
  constructor
  · rintro ⟨answer, answered⟩
    obtain ⟨value, first, second⟩ := bind_outcome_eq_ok.mp answered
    exact ⟨value, first, answer, second⟩
  · rintro ⟨value, first, answer, second⟩
    exact ⟨answer, bind_outcome_eq_ok.mpr ⟨value, first, second⟩⟩

theorem bind_pure_answers {first : Effect Stop Answer} {change : Answer → Next} :
    (first >>= fun value => pure (change value)).Answers ↔ first.Answers := by
  rw [bind_answers]
  constructor
  · rintro ⟨value, answered, _⟩
    exact ⟨value, answered⟩
  · rintro ⟨value, answered⟩
    exact ⟨value, answered, change value, rfl⟩

theorem bind_pure_outcome_eq_error {first : Effect Stop Answer} {change : Answer → Next}
    {fault : Stop} :
    (first >>= fun value => pure (change value)).outcome = .error fault ↔
      first.outcome = .error fault := by
  rw [bind_outcome_eq_error]
  simp

theorem answers_iff_forall_ne_error {effect : Effect Stop Answer} :
    effect.Answers ↔ ∀ fault, effect.outcome ≠ .error fault := by
  unfold Answers
  cases effect.outcome with
  | error fault => simp
  | ok answer => simp

theorem pure_answers (value : Answer) : (pure value : Effect Stop Answer).Answers :=
  ⟨value, rfl⟩

instance : LawfulMonad (Effect Stop) :=
  LawfulMonad.mk' _
    (fun first => by
      rcases first with ⟨events, fault | value⟩
      · rfl
      · exact eq_of_events_outcome (List.append_nil events) rfl)
    (fun value next => eq_of_events_outcome (List.nil_append _) rfl)
    (fun first second third => bind_assoc first second third)

end Effect

end TolerantValidation
