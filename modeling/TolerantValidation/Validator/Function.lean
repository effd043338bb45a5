import TolerantValidation.Validator.Run
import TolerantValidation.Text.UpperCase

/-!
Ready-made functions for transformations, checks and sinks.
-/

namespace TolerantValidation.Function

def raising {Answer : Type} (kind : String) (message : Option String) : Run Answer :=
  throw (.raised kind message)

def wrap (value : Value) : Run Value := pure (.list [value])

def lengthNumber (value : Value) : Run Nat :=
  match value.length? with
  | some length => pure length
  | none => raising "TypeError" (some "no length")

def length (value : Value) : Run Value := do pure (.int (← lengthNumber value))

def upperCase (value : Value) : Run Value :=
  match value with
  | .text characters => pure (.text (Text.upperCase characters))
  | _ => raising "TypeError" (some "not a string")

def shownLimit : Nat := 200

def whole (value : Value) : Run Value :=
  match value with
  | .text characters =>
    let refused : Run Value :=
      raising "ValueError" (some ("invalid literal for int() with base 10: " ++
        String.ofList ((Text.quoted characters).take shownLimit)))
    match Number.splitWhole? characters.toList with
    | some ((negative, digits), rest) =>
      if digits.length > digitLimit then throw (.tooManyDigitsRead digits.length)
      else if rest.all Text.isSpace then
        pure (.int (Number.signed negative (Number.ofDigits 10 digits)))
      else refused
    | none => refused
  | _ => raising "TypeError" (some "not a string")

def negate (value : Value) : Run Value :=
  match value.wholeOf?, value with
  | some number, _ => pure (.int (-number))
  | none, .float number => pure (.float number.neg)
  | none, _ => raising "TypeError" (some "not a number")

def toFloat (number : Int) : Run Binary64 :=
  match Binary64.ofInt? number with
  | some float => pure float
  | none => throw .tooLargeForFloat

def add (summand value : Value) : Run Value :=
  match value.wholeOf?, summand.wholeOf?, value, summand with
  | some left, some right, _, _ => pure (.int (left + right))
  | some left, none, _, .float right => do pure (.float ((← toFloat left).add right))
  | none, some right, .float left, _ => do pure (.float (left.add (← toFloat right)))
  | none, none, .float left, .float right => pure (.float (left.add right))
  | _, _, _, _ => raising "TypeError" (some "not a number")

def item (key value : Value) : Run Value :=
  match value.entries? with
  | none => raising "TypeError" (some "not a mapping")
  | some entries =>
    match key.keyFault? entries with
    | some fault => throw (.ofKey fault)
    | none =>
      match Value.get? key entries with
      | some found => pure found
      | none => throw (.missingKey key)

def recording (label : String) (value : Value) : Run Value := do
  Effect.emit (.observed label value)
  pure value

def greaterThan (bound value : Value) : Run Value :=
  if value.isNumeric then pure (.bool (value.numericOrder? bound == some .gt))
  else raising "TypeError" (some "not a number")

def hasLength (least : Int) (value : Value) : Run Value := do
  pure (.bool (decide (least ≤ (← lengthNumber value : Nat))))

end TolerantValidation.Function
