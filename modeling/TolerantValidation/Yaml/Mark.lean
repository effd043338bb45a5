import TolerantValidation.Yaml.Scalar
import TolerantValidation.Yaml.Token

/-!
The marks of nodes and documents as they are written: anchors and their aliases, tags, and
directives.
-/

namespace TolerantValidation.Yaml

def isNameCharacter (character : Char) : Bool :=
  ('0' ≤ character && character ≤ '9') || ('A' ≤ character && character ≤ 'Z') ||
    ('a' ≤ character && character ≤ 'z') || character == '-' || character == '_'

def isTagCharacter (character : Char) : Bool :=
  isNameCharacter character || ";/?:@&=+$,.!~*'()[]%".toList.contains character

def isSpaceOrBreak (character : Char) : Bool :=
  character == ' ' || isBreak character

def readName (cursor : Cursor) : Except DocumentFault (String × Cursor) :=
  let (name, cursor) := cursor.take isNameCharacter
  if !name.isEmpty && cursor.atEndOr fun character =>
      isSeparator character || "?:,]\x7d%@`".toList.contains character then
    .ok (String.ofList name, cursor)
  else malformed

def readEscapes : Nat → List UInt8 → Cursor → Except DocumentFault (List UInt8 × Cursor)
  | 0, _, _ => malformed
  | fuel + 1, done, cursor =>
    match cursor.rest with
    | '%' :: first :: second :: _ =>
      match Text.hexDigitValue? first, Text.hexDigitValue? second with
      | some high, some low =>
        readEscapes fuel (done ++ [UInt8.ofNat (high * 16 + low)]) (Cursor.advance 3 cursor)
      | _, _ => malformed
    | '%' :: _ => malformed
    | _ => .ok (done, cursor)

def readTagText : Nat → List (List Char) → Cursor → Except DocumentFault (String × Cursor)
  | 0, _, _ => malformed
  | fuel + 1, done, cursor =>
    let (plain, cursor) := cursor.take fun character =>
      isTagCharacter character && character != '%'
    let done := if plain.isEmpty then done else plain :: done
    if cursor.at_ (· == '%') then do
      let (octets, cursor) ← readEscapes fuel [] cursor
      match String.fromUTF8? ⟨octets.toArray⟩ with
      | some text => readTagText fuel (text.toList :: done) cursor
      | none => malformed
    else if done.isEmpty then malformed
    else .ok (String.ofList done.reverse.flatten, cursor)

def readHandle (cursor : Cursor) : Except DocumentFault (String × Cursor) :=
  if cursor.at_ (· == '!') then
    let opened := cursor.next
    if opened.at_ (· == ' ') then .ok ("!", opened)
    else
      let (name, cursor) := opened.take isNameCharacter
      if cursor.at_ (· == '!') then .ok (String.ofList ('!' :: name ++ ['!']), cursor.next)
      else malformed
  else malformed

/-- Whether a tag begins with a handle of its own: a second exclamation mark follows in it. -/
def hasOwnHandle (characters : List Char) : Bool :=
  (characters.takeWhile fun character => !isSpaceOrBreak character).contains '!'

def readTag (fuel : Nat) (cursor : Cursor) : Except DocumentFault (WrittenTag × Cursor) := do
  let opened := cursor.next
  let (tag, cursor) ←
    if opened.at_ (· == '<') then do
      let (suffix, cursor) ← readTagText fuel [] opened.next
      if cursor.at_ (· == '>') then pure (⟨none, suffix⟩, cursor.next) else malformed
    else if opened.atEndOr isSeparator then pure (⟨none, "!"⟩, opened)
    else if hasOwnHandle opened.rest then do
      let (handle, cursor) ← readHandle cursor
      let (suffix, cursor) ← readTagText fuel [] cursor
      pure (⟨some handle, suffix⟩, cursor)
    else do
      let (suffix, cursor) ← readTagText fuel [] opened
      pure (⟨some "!", suffix⟩, cursor)
  if cursor.atEndOr isSpaceOrBreak then .ok (tag, cursor) else malformed

def readVersionPart (cursor : Cursor) : Except DocumentFault (Nat × Cursor) :=
  let (digits, cursor) := cursor.take Text.isAsciiDigit
  if digits.isEmpty then malformed
  else if digits.length > digitLimit then .error .noSuchNumber
  else .ok (Number.ofDecimalDigits digits, cursor)

def readVersion (cursor : Cursor) : Except DocumentFault (Directive × Cursor) := do
  let (major, cursor) ← readVersionPart cursor.skipSpaces
  if cursor.at_ (· == '.') then
    let (_, cursor) ← readVersionPart cursor.next
    if cursor.atEndOr isSpaceOrBreak then .ok (.version major, cursor) else malformed
  else malformed

def readHandleDefinition (fuel : Nat) (cursor : Cursor) :
    Except DocumentFault (Directive × Cursor) := do
  let (handle, cursor) ← readHandle cursor.skipSpaces
  if cursor.at_ (· == ' ') then
    let (expansion, cursor) ← readTagText fuel [] cursor.skipSpaces
    if cursor.atEndOr isSpaceOrBreak then .ok (.tag handle expansion, cursor) else malformed
  else malformed

def readDirective (fuel : Nat) (cursor : Cursor) : Except DocumentFault (Directive × Cursor) := do
  let (name, cursor) := cursor.next.take isNameCharacter
  if !name.isEmpty && cursor.atEndOr isSpaceOrBreak then
    let (directive, cursor) ←
      if name = "YAML".toList then readVersion cursor
      else if name = "TAG".toList then readHandleDefinition fuel cursor
      else pure (.other, cursor.skipLine)
    .ok (directive, ← endLine cursor)
  else malformed

end TolerantValidation.Yaml
