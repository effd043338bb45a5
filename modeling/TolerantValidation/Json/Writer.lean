import TolerantValidation.Value.Text

/-!
Values as JSON text on one line, in ASCII: characters above are written as escapes, in surrogate
pairs above the basic plane. Values that JSON has no form for are written as the string of their
notation.
-/

namespace TolerantValidation.Json

inductive WriteFault where
  | keyType
  | circular
  | text (fault : TextFault)

def unitEscape (unit : Nat) : List Char :=
  '\\' :: 'u' :: Text.hexPadded 4 unit

def writtenCharacter (character : Char) : List Char :=
  let code := character.toNat
  if character = '"' then ['\\', '"']
  else if character = '\\' then ['\\', '\\']
  else if character = '\n' then ['\\', 'n']
  else if character = '\r' then ['\\', 'r']
  else if character = '\t' then ['\\', 't']
  else if character = '\x0C' then ['\\', 'f']
  else if character = '\x08' then ['\\', 'b']
  else if 0x20 ≤ code ∧ code < 0x7F then [character]
  else if code < 0x10000 then unitEscape code
  else
    unitEscape (0xD800 + (code - 0x10000) / 0x400) ++ unitEscape (0xDC00 + (code - 0x10000) % 0x400)

def writtenString (text : List Char) : List Char :=
  '"' :: text.flatMap writtenCharacter ++ ['"']

def writtenReal (number : Binary64) : List Char :=
  if number.isNotANumber then "NaN".toList
  else if number.isInfinite then (if number.isNegative then "-Infinity" else "Infinity").toList
  else number.text.toList

/-- The key of a member: texts as they are, numbers and constants as their JSON text. -/
def memberKey : Value → Except WriteFault (List Char)
  | .text characters => .ok characters.toList
  | .float number => .ok (writtenReal number)
  | .bool flag => .ok (if flag then "true" else "false").toList
  | .null => .ok "null".toList
  | .int whole => (wholeText whole).mapError .text
  | _ => .error .keyType

def writeWithin : Nat → List Nat → Value → Except WriteFault (List Char)
  | 0, _, _ => .error (.text .tooDeep)
  | fuel + 1, around, value =>
    if Value.isAround around value then .error .circular
    else
      let asString : Except WriteFault (List Char) := do
        .ok (writtenString (← (value.notationText.mapError .text)).toList)
      match value.view with
      | .collection kind items =>
        if kind = .list ∨ kind = .tuple then do
          let texts ← items.mapM fun held =>
            writeWithin fuel (held.trail value around) held.value
          .ok ('[' :: Value.separated ", " texts ++ [']'])
        else asString
      | .mapping entries => do
        let texts ← entries.mapM fun entry => do
          let key ← memberKey entry.1
          let item ← writeWithin fuel (entry.2.trail value around) entry.2.value
          .ok (writtenString key ++ ": ".toList ++ item)
        .ok ('{' :: Value.separated ", " texts ++ ['}'])
      | .atom =>
        match value with
        | .null => .ok "null".toList
        | .bool flag => .ok (if flag then "true" else "false").toList
        | .int whole => (wholeText whole).mapError .text
        | .float number => .ok (writtenReal number)
        | .text characters => .ok (writtenString characters.toList)
        | _ => asString

def write (value : Value) : Except WriteFault String :=
  (writeWithin Value.writingLimit [] value).map String.ofList

end TolerantValidation.Json
