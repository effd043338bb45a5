import TolerantValidation.Effect

/-!
Outcomes: the answer of a step that may fail, either an accepted value or an error, with the
operations by which steps are chained. The functions are the caller's and may have effects.
-/

namespace TolerantValidation

inductive Outcome (Error : Type) (Accepted : Type) where
  | ok (value : Accepted)
  | err (error : Error)

namespace Outcome

variable {Error Accepted Other Next : Type}

def isOk : Outcome Error Accepted → Bool
  | .ok _ => true
  | .err _ => false

def isErr (outcome : Outcome Error Accepted) : Bool := !outcome.isOk

def getD (outcome : Outcome Error Accepted) (fallback : Accepted) : Accepted :=
  match outcome with
  | .ok value => value
  | .err _ => fallback

def getOrElse (outcome : Outcome Error Accepted) (recover : Error → Run Accepted) : Run Accepted :=
  match outcome with
  | .ok value => pure value
  | .err error => recover error

def map (outcome : Outcome Error Accepted) (change : Accepted → Run Next) :
    Run (Outcome Error Next) :=
  match outcome with
  | .ok value => do pure (.ok (← change value))
  | .err error => pure (.err error)

def mapError (outcome : Outcome Error Accepted) (change : Error → Run Other) :
    Run (Outcome Other Accepted) :=
  match outcome with
  | .ok value => pure (.ok value)
  | .err error => do pure (.err (← change error))

def andThen (outcome : Outcome Error Accepted) (next : Accepted → Run (Outcome Error Next)) :
    Run (Outcome Error Next) :=
  match outcome with
  | .ok value => next value
  | .err error => pure (.err error)

def orElse (outcome : Outcome Error Accepted) (next : Error → Run (Outcome Other Accepted)) :
    Run (Outcome Other Accepted) :=
  match outcome with
  | .ok value => pure (.ok value)
  | .err error => next error

def fold (outcome : Outcome Error Accepted) (onOk : Accepted → Run Next)
    (onErr : Error → Run Next) : Run Next :=
  match outcome with
  | .ok value => onOk value
  | .err error => onErr error

def toList : Outcome Error Accepted → List Accepted
  | .ok value => [value]
  | .err _ => []

/-- The accepted value. An error that is an exception is raised as it is, any other one is named in
the fault. -/
def unwrap (outcome : Outcome Value Accepted) : Run Accepted :=
  match outcome with
  | .ok value => pure value
  | .err (.exception kind message _) => throw (.raised kind message)
  | .err (.failure failure) => throw (.rejected failure)
  | .err error => do
    let shown ← Run.ofText error.display
    throw (.raised "ValueError" (some ("Called unwrap on Err: " ++ shown)))

def unwrapErr (outcome : Outcome Error Value) : Run Error :=
  match outcome with
  | .err error => pure error
  | .ok value => do
    let shown ← Run.ofText value.notationText
    throw (.raised "ValueError" (some ("Called unwrap_err on Ok: " ++ shown)))

def same (left right : Outcome Value Value) : Except TextFault Bool :=
  let compared (first second : Value) : Except TextFault Bool :=
    match first.equal? second with
    | some equal => .ok equal
    | none => .error .tooDeep
  match left, right with
  | .ok first, .ok second => compared first second
  | .err first, .err second => compared first second
  | _, _ => .ok false

end Outcome
end TolerantValidation
