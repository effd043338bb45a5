import TolerantValidation.Validator.Leaf

/-!
Validators of collections, given the verdicts of their parts. The strict ones fail if any part is
refused; the tolerant ones drop it and tell the callback once, after the last part, what was
dropped. Issues of a part carry its position or its key as it was given.
-/

namespace TolerantValidation.Validator

def sortItems (check : Value → Run Verdict) (position : Nat) :
    List Value → Run (List Value × List Issue)
  | [] => pure ([], [])
  | item :: rest => do
    let verdict ← check item
    let (accepted, issues) ← sortItems check (position + 1) rest
    match verdict with
    | .ok value => pure (value :: accepted, issues)
    | .err failure =>
      pure (accepted, failure.issues.map (IssueAt.below (.int position)) ++ issues)

def keepItems (check : Value → Run Verdict) : List Value → Run (List Value)
  | [] => pure []
  | item :: rest => do
    let verdict ← check item
    let accepted ← keepItems check rest
    match verdict with
    | .ok value => pure (value :: accepted)
    | .err _ => pure accepted

def tell (callback : Sink) (issues : List Issue) (input : Value) : Run Unit :=
  if issues.isEmpty then pure ()
  else do
    let _ ← callback ⟨{ issues }, input⟩
    pure ()

def arrayOf (check : Value → Run Verdict) (value : Value) : Run Verdict :=
  match value.sequence? with
  | none => pure (.wrongType "array" value)
  | some items => do
    let (accepted, issues) ← sortItems check 0 items
    pure (if issues.isEmpty then .ok (.list accepted) else .err { issues })

def looseArrayOf (check : Value → Run Verdict) (onError : Option Sink) (value : Value) :
    Run Verdict :=
  match value.sequence? with
  | none => pure (.wrongType "array" value)
  | some items =>
    match onError with
    | none => do pure (.ok (.list (← keepItems check items)))
    | some callback => do
      let (accepted, issues) ← sortItems check 0 items
      tell callback issues value
      pure (.ok (.list accepted))

def store (key value : Value) (entries : List (Value × Value)) : Run (List (Value × Value)) :=
  match key.keyFault? entries with
  | some fault => throw (.ofKey fault)
  | none => pure (Value.put key value entries)

/-- Verdicts on all keys and values. An entry is stored only while no issue has come up. -/
def sortEntries (checkKey checkValue : Value → Run Verdict) :
    List (Value × Value) → List Issue → List (Value × Value) →
      Run (List (Value × Value) × List Issue)
  | stored, issues, [] => pure (stored, issues)
  | stored, issues, entry :: rest => do
    let key ← checkKey entry.1
    let value ← checkValue entry.2
    match key, value with
    | .ok key, .ok value =>
      let stored ← if issues.isEmpty then store key value stored else pure stored
      sortEntries checkKey checkValue stored issues rest
    | _, _ =>
      let issuesOf : Verdict → List Issue
        | .ok _ => []
        | .err failure => failure.issues.map (IssueAt.below entry.1)
      sortEntries checkKey checkValue stored (issues ++ (issuesOf key ++ issuesOf value)) rest

/-- Verdicts on keys, and on the values under accepted keys: the accepted entries, and the issues of
the rest. -/
def sortLooseEntries (checkKey checkValue : Value → Run Verdict) :
    List (Value × Value) → List Issue → List (Value × Value) →
      Run (List (Value × Value) × List Issue)
  | stored, issues, [] => pure (stored, issues)
  | stored, issues, entry :: rest => do
    match ← checkKey entry.1 with
    | .err failure =>
      sortLooseEntries checkKey checkValue stored
        (issues ++ failure.issues.map (IssueAt.below entry.1)) rest
    | .ok key =>
      match ← checkValue entry.2 with
      | .err failure =>
        sortLooseEntries checkKey checkValue stored
          (issues ++ failure.issues.map (IssueAt.below entry.1)) rest
      | .ok value => sortLooseEntries checkKey checkValue (← store key value stored) issues rest

def keepEntries (checkKey checkValue : Value → Run Verdict) :
    List (Value × Value) → List (Value × Value) → Run (List (Value × Value))
  | stored, [] => pure stored
  | stored, entry :: rest => do
    match ← checkKey entry.1 with
    | .err _ => keepEntries checkKey checkValue stored rest
    | .ok key =>
      match ← checkValue entry.2 with
      | .err _ => keepEntries checkKey checkValue stored rest
      | .ok value => keepEntries checkKey checkValue (← store key value stored) rest

def recordOf (checkKey checkValue : Value → Run Verdict) (value : Value) : Run Verdict :=
  match value.entries? with
  | none => pure (.wrongType "object" value)
  | some entries => do
    let (stored, issues) ← sortEntries checkKey checkValue [] [] entries
    pure (if issues.isEmpty then .ok (.mapping stored) else .err { issues })

def looseRecordOf (checkKey checkValue : Value → Run Verdict) (onError : Option Sink)
    (value : Value) : Run Verdict :=
  match value.entries? with
  | none => pure (.wrongType "object" value)
  | some entries =>
    match onError with
    | none => do pure (.ok (.mapping (← keepEntries checkKey checkValue [] entries)))
    | some callback => do
      let (stored, issues) ← sortLooseEntries checkKey checkValue [] [] entries
      tell callback issues value
      pure (.ok (.mapping stored))

end TolerantValidation.Validator
