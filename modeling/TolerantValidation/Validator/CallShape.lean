import TolerantValidation.Validator.Run

/-!
Building a tolerant record from one, two or three arguments. With three, they are key, value and
options; with two, the second is the value validator or the options; with one, keys pass unchanged.
-/

namespace TolerantValidation

inductive LooseArgument where
  | validator (validator : Validator)
  /-- An instance of `LooseOptions`. -/
  | options (onError : Option Sink)
  /-- A mapping with a callback, or none, under `on_error`. -/
  | mapping (onError : Option Sink)
  /-- Any other value. A mapping among them still counts as options, but what it has under
  `on_error` cannot be called. -/
  | value (value : Value)

namespace LooseArgument

def typeName : LooseArgument → String
  | .validator given => given.kindName
  | .options _ => "LooseOptions"
  | .mapping _ => "dict"
  | .value given => given.typeName

def isGiven : LooseArgument → Bool
  | .value .null => false
  | _ => true

def callbackOf (value : Value) : Option Sink :=
  match value with
  | .null => none
  | other => some fun _ => throw (.notCallable other.typeName)

def onError (argument : LooseArgument) : Except Fault (Option Sink) :=
  match argument with
  | .options callback | .mapping callback => .ok callback
  | .value .null => .ok none
  | .value given =>
    match given.entries? with
    | some entries => .ok ((Value.get? (.text "on_error") entries).bind callbackOf)
    | none => .error (.noOptions argument.typeName)
  | .validator _ => .error (.noOptions argument.typeName)

def check (argument : LooseArgument) (value : Value) : Run Verdict :=
  match argument with
  | .validator given => given.run value
  | _ => throw (.noValidator argument.typeName)

end LooseArgument

structure LooseRecord where
  key : LooseArgument
  value : LooseArgument
  onError : Option Sink

namespace LooseRecord

def ofArguments (first second third : LooseArgument) : Except Fault LooseRecord :=
  if second.isGiven && third.isGiven then do
    .ok ⟨first, second, ← third.onError⟩
  else if second.isGiven then
    match second with
    | .validator _ => .ok ⟨first, second, none⟩
    | _ => do .ok ⟨.validator .unknown, first, ← second.onError⟩
  else .ok ⟨.validator .unknown, first, none⟩

def run (record : LooseRecord) (value : Value) : Run Verdict :=
  Validator.looseRecordOf record.key.check record.value.check record.onError value

end LooseRecord
end TolerantValidation
