import TolerantValidation.Record.Shape
import TolerantValidation.Number.Reading
import TolerantValidation.Value.Entries

/-!
Reading values into records. By default a field takes what stands for a value of its type, such as
digits for a whole number; the strict way takes the very type only. All errors are reported, in the
order of the fields.
-/

namespace TolerantValidation.Record

def checkPairs (characters : String) : Except FieldFault String :=
  if characters.toList.any Text.isUnpairedSurrogate then .error .textUnicode else .ok characters

def textOf? (malformed : FieldFault) : Value → Option (Except FieldFault String)
  | .text characters => some (checkPairs characters)
  | .bytes octets =>
    match String.fromUTF8? ⟨octets.toArray⟩ with
    | some characters => some (checkPairs characters)
    | none => some (.error malformed)
  | _ => none

def readText (strict : Bool) (value : Value) : Except FieldFault String :=
  match value with
  | .text characters => checkPairs characters
  | _ =>
    if strict then .error .textType
    else (textOf? .textUnicode value).getD (.error .textType)

def checkLength (least greatest : Option Nat) (characters : String) : Except FieldFault String :=
  match greatest.filter (· < characters.length), least.filter (characters.length < ·) with
  | some bound, _ => .error (.textTooLong bound)
  | none, some bound => .error (.textTooShort bound)
  | none, none => .ok characters

def dropZeroFraction (characters : List Char) : List Char :=
  let whole := characters.takeWhile (· ≠ '.')
  match characters.dropWhile (· ≠ '.') with
  | _ :: first :: rest => if (first :: rest).all (· = '0') then whole else characters
  | _ => characters

def dropPlus : List Char → List Char
  | '+' :: '-' :: rest => '+' :: '-' :: rest
  | '+' :: rest => rest
  | characters => characters

def splitMinus (characters : List Char) : Bool × List Char :=
  match characters.dropWhile (· = '0') with
  | '-' :: rest => (true, rest)
  | _ => (false, characters)

/-- The whole number that a text stands for: spaces around it, a sign, digits with single
underscores between them, and a fraction of zeros are understood. -/
def wholeOfText? (characters : List Char) : Option Int := do
  let trimmed := dropPlus (Text.trim Text.isSpace characters)
  let (negative, digits) := splitMinus (← Number.dropUnderscores? (dropZeroFraction trimmed))
  if digits.isEmpty || !digits.all Text.isAsciiDigit then none
  else if (digits.dropWhile (· = '0')).length > digitLimit then none
  else some (Number.signed negative (Number.ofDecimalDigits digits))

def beginsTooLong (characters : List Char) : Bool :=
  let unsigned :=
    match characters with
    | '-' :: rest => rest
    | _ => characters
  decide ((unsigned.takeWhile Text.isAsciiDigit).length > digitLimit) && unsigned.head? != some '0'

def wholeOfText (characters : String) : Except FieldFault Int :=
  if beginsTooLong characters.toList then .error .wholeParsingSize
  else
    match wholeOfText? characters.toList with
    | some whole => .ok whole
    | none => .error .wholeParsing

def wholeOfReal (number : Binary64) : Except FieldFault Int :=
  if number.isInfinite || number.isNotANumber then .error .finite
  else
    match number.toInt? with
    | none => .error .wholeFromFraction
    | some whole =>
      if whole.natAbs < Nat.pow 2 63 then .ok whole else .error .wholeParsingSize

def readWhole (strict : Bool) (value : Value) : Except FieldFault Int :=
  match value with
  | .int whole => .ok whole
  | .bool flag => if strict then .error .wholeType else .ok (if flag then 1 else 0)
  | .float number => if strict then .error .wholeType else wholeOfReal number
  | _ =>
    if strict then .error .wholeType
    else
      match textOf? .wholeParsing value with
      | some read => do wholeOfText (← read)
      | none => .error .wholeType

def checkBounds (least greatest : Option Int) (whole : Int) : Except FieldFault Int :=
  match greatest.filter (· < whole), least.filter (whole < ·) with
  | some bound, _ => .error (.above bound)
  | none, some bound => .error (.below bound)
  | none, none => .ok whole

/-- The number that a text stands for, with spaces around it or single underscores within, but not
with both. -/
def realOfText (characters : String) : Except FieldFault Binary64 :=
  let trimmed := Text.trim Text.isSpace characters.toList
  let separated := (Number.dropUnderscores? characters.toList).bind Number.readReal?
  match Number.readReal? trimmed <|> separated with
  | some number => .ok number
  | none => .error .realParsing

def readReal (strict : Bool) (value : Value) : Except FieldFault Binary64 :=
  match value with
  | .float number => .ok number
  | .int whole =>
    match Binary64.ofInt? whole with
    | some number => .ok number
    | none => .error .realType
  | .bool flag => if strict then .error .realType else .ok (.ofInt (if flag then 1 else 0))
  | _ =>
    if strict then .error .realType
    else
      match textOf? .realParsing value with
      | some read => do realOfText (← read)
      | none => .error .realType

def flagOfText (characters : String) : Except FieldFault Bool :=
  let word := String.ofList (Number.asciiLower characters.toList)
  if ["1", "on", "t", "true", "y", "yes"].contains word then .ok true
  else if ["0", "off", "f", "false", "n", "no"].contains word then .ok false
  else .error .flagParsing

def readFlag (strict : Bool) (value : Value) : Except FieldFault Bool :=
  match value with
  | .bool flag => .ok flag
  | _ =>
    if strict then .error .flagType
    else
      match value with
      | .int whole =>
        if whole = 0 then .ok false
        else if whole = 1 then .ok true
        else if (Binary64.ofInt? whole).isSome then .error .flagParsing
        else .error .flagType
      | .float number =>
        if number.isZero then .ok false
        else if number.orderInt? 1 = some .eq then .ok true
        else .error .flagParsing
      | _ =>
        match textOf? .flagParsing value with
        | some read => do flagOfText (← read)
        | none => .error .flagType

def readItems (strict : Bool) (value : Value) : Except FieldFault (List Value) :=
  match value.view with
  | .collection kind items =>
    if kind = .list ∨ strict = false then .ok (items.map Value.Held.value) else .error .listType
  | _ => .error .listType

def here {Read : Type} (result : Except FieldFault Read) : Except (List FieldError) Read :=
  result.mapError fun fault => [⟨[], fault⟩]

def joined {Read : Type} (segment : Value) :
    Except (List FieldError) Read → Except (List FieldError) (List Read) →
      Except (List FieldError) (List Read)
  | .ok first, .ok others => .ok (first :: others)
  | .ok _, .error errors => .error errors
  | .error errors, .ok _ => .error (errors.map (FieldError.below segment))
  | .error errors, .error more => .error (errors.map (FieldError.below segment) ++ more)

def gather {Item Read : Type} (read : Item → Run (Except (List FieldError) Read))
    (segment : Nat → Item → Value) (position : Nat) :
    List Item → Run (Except (List FieldError) (List Read))
  | [] => pure (.ok [])
  | item :: rest => do
    let first ← read item
    let others ← gather read segment (position + 1) rest
    pure (joined (segment position item) first others)

def read (strict : Bool) : FieldType → Value → Run (Except (List FieldError) Value)
  | .anything, value => pure (.ok value)
  | .text least greatest, value => pure <| here do
    .ok (.text (← checkLength least greatest (← readText strict value)))
  | .whole least greatest, value => pure <| here do
    .ok (.int (← checkBounds least greatest (← readWhole strict value)))
  | .real, value => pure <| here do .ok (.float (← readReal strict value))
  | .flag, value => pure <| here do .ok (.bool (← readFlag strict value))
  | .listOf item, value =>
    match readItems strict value with
    | .error fault => pure (.error [⟨[], fault⟩])
    | .ok items => do
      let fitted ← gather (read strict item) (fun position _ => .int position) 0 items
      pure (fitted.map .list)
  | .optional inner, value =>
    match value with
    | .null => pure (.ok .null)
    | _ => read strict inner value
  | .after step inner, value => do
    match ← (step value).attempt with
    | .ok prepared => read strict inner prepared
    | .error fault => do pure (.error [⟨[], ← FieldFault.ofFault fault⟩])
  | .record name fields, value =>
    match value, value.entries? with
    | .record given values, _ =>
      pure (if given = name then .ok (.record given values) else .error [⟨[], .recordType name⟩])
    | _, none => pure (.error [⟨[], .recordType name⟩])
    | _, some entries => do
      let fitted ← readFields strict entries fields
      pure (fitted.map (.record name))
where
  readFields (strict : Bool) (entries : List (Value × Value)) :
      List (String × FieldType × Option Value) →
        Run (Except (List FieldError) (List (String × Value)))
    | [] => pure (.ok [])
    | (name, type, default) :: rest => do
      let field : Run (Except (List FieldError) Value) :=
        match Value.get? (.text name) entries, default with
        | some value, _ => read strict type value
        | none, some value => pure (.ok value)
        | none, none => pure (.error [⟨[], .missing⟩])
      let value ← field
      let others ← readFields strict entries rest
      pure (joined (.text name) (value.map (name, ·)) others)

end TolerantValidation.Record
