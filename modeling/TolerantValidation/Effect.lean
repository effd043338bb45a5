import TolerantValidation.Fault
import TolerantValidation.Log.Entry

/-!
Effects as data. A computation yields an answer or a fault, and with either of them the events that
happened on the way, in order: log entries, and what the caller's functions noted.
-/

namespace TolerantValidation

inductive Event where
  | logged (entry : Log.Entry)
  | observed (label : String) (value : Value)
  | reported (label : String) (failure : Failure) (input : Value)

structure Effect (Stop : Type) (Answer : Type) where
  events : List Event
  outcome : Except Stop Answer

abbrev Run := Effect Fault

namespace Effect

variable {Stop Answer Next : Type}

def answer (value : Answer) : Effect Stop Answer := ⟨[], .ok value⟩

def stop (fault : Stop) : Effect Stop Answer := ⟨[], .error fault⟩

def andThen (first : Effect Stop Answer) (next : Answer → Effect Stop Next) : Effect Stop Next :=
  match first.outcome with
  | .error fault => ⟨first.events, .error fault⟩
  | .ok value =>
    let second := next value
    ⟨first.events ++ second.events, second.outcome⟩

instance : Monad (Effect Stop) where
  pure := answer
  bind := andThen

instance : MonadExceptOf Stop (Effect Stop) where
  throw := stop
  tryCatch first handler :=
    match first.outcome with
    | .ok _ => first
    | .error fault =>
      let second := handler fault
      ⟨first.events ++ second.events, second.outcome⟩

/-- The answer or the fault as the answer of a computation that does not stop, as a handler of every
ordinary error has it. -/
def attempt (first : Effect Stop Answer) : Effect Stop (Except Stop Answer) :=
  ⟨first.events, .ok first.outcome⟩

def emit (event : Event) : Effect Stop Unit := ⟨[event], .ok ()⟩

def log (entry : Log.Entry) : Effect Stop Unit := emit (.logged entry)

@[simp] theorem pure_events (value : Answer) : (pure value : Effect Stop Answer).events = [] := rfl

@[simp] theorem pure_outcome (value : Answer) :
    (pure value : Effect Stop Answer).outcome = .ok value := rfl

@[simp] theorem bind_ok {first : Effect Stop Answer} {value : Answer}
    (answered : first.outcome = .ok value) (next : Answer → Effect Stop Next) :
    first >>= next = ⟨first.events ++ (next value).events, (next value).outcome⟩ := by
  show andThen first next = _
  simp [andThen, answered]

@[simp] theorem bind_error {first : Effect Stop Answer} {fault : Stop}
    (stopped : first.outcome = .error fault) (next : Answer → Effect Stop Next) :
    first >>= next = ⟨first.events, .error fault⟩ := by
  show andThen first next = _
  simp [andThen, stopped]

theorem bind_assoc {Last : Type} (first : Effect Stop Answer) (second : Answer → Effect Stop Next)
    (third : Next → Effect Stop Last) :
    (first >>= second) >>= third = first >>= fun value => second value >>= third := by
  rcases first with ⟨events, fault | value⟩
  · rfl
  · show andThen (andThen _ _) _ = andThen _ _
    simp only [andThen]
    rcases second value with ⟨moreEvents, fault | next⟩
    · simp [Bind.bind, andThen]
    · simp [Bind.bind, andThen, List.append_assoc]

end Effect

def Run.ofText {Answer : Type} (result : Except TextFault Answer) : Run Answer :=
  ⟨[], result.mapError Fault.text⟩

end TolerantValidation
