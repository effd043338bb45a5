import TolerantValidation.Yaml.Cursor
import TolerantValidation.Document.Fault
import TolerantValidation.Text.Units
import TolerantValidation.Number.Reading

/-!
Scalars as they are written: plain ones, quoted ones and blocks of lines. Line breaks within a
scalar are folded: a single one becomes a space, and of several the first is dropped. Every reader
is given the number of characters of the text, which bounds its steps.
-/

namespace TolerantValidation.Yaml

def malformed {Read : Type} : Except DocumentFault Read :=
  .error (.malformed .yaml)

def folded (lineBreak breaks : List Char) : List Char :=
  (if lineBreak ≠ ['\n'] then lineBreak else if breaks.isEmpty then [' '] else []) ++ breaks

/-! ### Plain scalars -/

def endsAtColon (inFlow : Bool) : List Char → Bool
  | [] => true
  | character :: _ => isSeparator character || (inFlow && ",[]\x7b\x7d".toList.contains character)

def plainPart (inFlow : Bool) : List Char → List Char
  | [] => []
  | character :: rest =>
    if isSeparator character || (character == ':' && endsAtColon inFlow rest) ||
        (inFlow && ",?[]\x7b\x7d".toList.contains character) then []
    else character :: plainPart inFlow rest

structure Gap where
  text : List Char
  cursor : Cursor
  hasBreak : Bool

def plainBreaks : Nat → List Char → Cursor → Option (List Char) × Cursor
  | 0, done, cursor => (some done, cursor)
  | fuel + 1, done, cursor =>
    if cursor.at_ (· == ' ') then plainBreaks fuel done cursor.next
    else if cursor.at_ isBreak then
      let (lineBreak, cursor) := cursor.lineBreak
      if cursor.atDocumentMark then (none, cursor)
      else plainBreaks fuel (done ++ lineBreak) cursor
    else (some done, cursor)

def plainGap (fuel : Nat) (cursor : Cursor) : Gap :=
  let (spaces, cursor) := cursor.take (· == ' ')
  if cursor.at_ isBreak then
    let (lineBreak, cursor) := cursor.lineBreak
    if cursor.atDocumentMark then ⟨[], cursor, true⟩
    else
      match plainBreaks fuel [] cursor with
      | (some breaks, cursor) => ⟨folded lineBreak breaks, cursor, true⟩
      | (none, cursor) => ⟨[], cursor, true⟩
  else ⟨spaces, cursor, false⟩

structure ReadScalar where
  text : String
  cursor : Cursor
  atLineStart : Bool := false

def readPlainFrom (inFlow : Bool) (indent : Int) :
    Nat → List (List Char) → List Char → Bool → Cursor → ReadScalar
  | 0, done, _, hasBreak, cursor => ⟨String.ofList done.reverse.flatten, cursor, hasBreak⟩
  | fuel + 1, done, gap, hasBreak, cursor =>
    let part := if cursor.at_ (· == '#') then [] else plainPart inFlow cursor.rest
    if part.isEmpty then ⟨String.ofList done.reverse.flatten, cursor, hasBreak⟩
    else
      let done := part :: gap :: done
      let after := plainGap fuel (Cursor.advance part.length cursor)
      if after.text.isEmpty || after.cursor.at_ (· == '#') ||
          (!inFlow && (after.cursor.column : Int) < indent) then
        ⟨String.ofList done.reverse.flatten, after.cursor, after.hasBreak⟩
      else readPlainFrom inFlow indent fuel done after.text after.hasBreak after.cursor

/-- Reads a plain scalar. In a block, lines indented less than `indent` do not belong to it. -/
def readPlain (inFlow : Bool) (indent : Int) (fuel : Nat) (cursor : Cursor) : ReadScalar :=
  readPlainFrom inFlow indent fuel [] [] false cursor

/-! ### Quoted scalars -/

def shortEscape? : Char → Option Char
  | '0' => some '\x00'
  | 'a' => some '\x07'
  | 'b' => some '\x08'
  | 't' | '\t' => some '\t'
  | 'n' => some '\n'
  | 'v' => some '\x0B'
  | 'f' => some '\x0C'
  | 'r' => some '\r'
  | 'e' => some '\x1B'
  | ' ' => some ' '
  | '"' => some '"'
  | '\\' => some '\\'
  | '/' => some '/'
  | 'N' => some '\x85'
  | '_' => some '\xA0'
  | 'L' => some '\u2028'
  | 'P' => some '\u2029'
  | _ => none

def escapeLength? : Char → Option Nat
  | 'x' => some 2
  | 'u' => some 4
  | 'U' => some 8
  | _ => none

def escapedCode (digits : List Char) : Except DocumentFault Nat :=
  let code := Number.ofHexDigits digits
  if code < 0x110000 then .ok code
  else if code < 0x80000000 then .error .noSuchNumber
  else .error .tooLarge

def quotedBreaks : Nat → List Char → Cursor → Except DocumentFault (List Char × Cursor)
  | 0, _, _ => malformed
  | fuel + 1, done, cursor =>
    if cursor.atDocumentMark then malformed
    else
      let cursor := cursor.skip fun character => character == ' ' || character == '\t'
      if cursor.at_ isBreak then
        let (lineBreak, cursor) := cursor.lineBreak
        quotedBreaks fuel (done ++ lineBreak) cursor
      else .ok (done, cursor)

def pushAll (characters : List Char) (done : List Nat) : List Nat :=
  (characters.map Char.toNat).reverse ++ done

def readQuotedFrom (double : Bool) : Nat → List Nat → Cursor → Except DocumentFault ReadScalar
  | 0, _, _ => malformed
  | fuel + 1, done, cursor =>
    match cursor.rest with
    | [] => malformed
    | character :: rest =>
      if character = (if double then '"' else '\'') then
        if !double && rest.head? == some '\'' then
          readQuotedFrom double fuel ('\''.toNat :: done) (Cursor.advance 2 cursor)
        else .ok ⟨String.ofList (done.reverse.map Text.unitCharacter), cursor.next, false⟩
      else if isSeparator character then
        let (spaces, after) := cursor.take fun space => space == ' ' || space == '\t'
        if after.at_ isBreak then do
          let (lineBreak, after) := after.lineBreak
          let (breaks, after) ← quotedBreaks fuel [] after
          readQuotedFrom double fuel (pushAll (folded lineBreak breaks) done) after
        else readQuotedFrom double fuel (pushAll spaces done) after
      else if double && character = '\\' then
        match rest with
        | [] => malformed
        | escape :: digits =>
          match shortEscape? escape, escapeLength? escape with
          | some escaped, _ =>
            readQuotedFrom double fuel (escaped.toNat :: done) (Cursor.advance 2 cursor)
          | none, some length =>
            let digits := digits.take length
            if digits.length = length && digits.all Text.isHexDigit then do
              let code ← escapedCode digits
              readQuotedFrom double fuel (code :: done) (Cursor.advance (2 + length) cursor)
            else malformed
          | none, none =>
            if isBreak escape then do
              let (_, after) := cursor.next.lineBreak
              let (breaks, after) ← quotedBreaks fuel [] after
              readQuotedFrom double fuel (pushAll breaks done) after
            else malformed
      else readQuotedFrom double fuel (character.toNat :: done) cursor.next

def readQuoted (double : Bool) (fuel : Nat) (cursor : Cursor) : Except DocumentFault ReadScalar :=
  readQuotedFrom double fuel [] cursor.next

/-! ### Blocks of lines -/

inductive Chomping where
  | strip
  | clip
  | keep
deriving DecidableEq

structure BlockHeader where
  chomping : Chomping
  indentation : Option Nat

def readChomping (cursor : Cursor) : Option Chomping × Cursor :=
  match cursor.peek? with
  | some '+' => (some .keep, cursor.next)
  | some '-' => (some .strip, cursor.next)
  | _ => (none, cursor)

def readIndentation (cursor : Cursor) : Except DocumentFault (Option Nat × Cursor) :=
  match cursor.peek?.bind Text.asciiDigitValue? with
  | some 0 => malformed
  | some digit => .ok (some digit, cursor.next)
  | none => .ok (none, cursor)

def endLine (cursor : Cursor) : Except DocumentFault Cursor :=
  let cursor := cursor.skipSpaces
  let cursor := if cursor.at_ (· == '#') then cursor.skipLine else cursor
  if cursor.atEndOr isBreak then .ok cursor.lineBreak.2 else malformed

def readBlockHeader (cursor : Cursor) : Except DocumentFault (BlockHeader × Cursor) := do
  let (before, cursor) := readChomping cursor
  let (indentation, cursor) ← readIndentation cursor
  let (chomping, cursor) :=
    match before with
    | some chomping => (some chomping, cursor)
    | none => if indentation.isSome then readChomping cursor else (none, cursor)
  if cursor.atEndOr fun character => character == ' ' || isBreak character then
    .ok (⟨chomping.getD .clip, indentation⟩, ← endLine cursor)
  else malformed

def leadingBreaks : Nat → List Char → Nat → Cursor → List Char × Nat × Cursor
  | 0, done, greatest, cursor => (done, greatest, cursor)
  | fuel + 1, done, greatest, cursor =>
    if cursor.at_ (· == ' ') then
      leadingBreaks fuel done (max greatest cursor.next.column) cursor.next
    else if cursor.at_ isBreak then
      let (lineBreak, cursor) := cursor.lineBreak
      leadingBreaks fuel (done ++ lineBreak) greatest cursor
    else (done, greatest, cursor)

def skipIndentation (indent : Nat) (cursor : Cursor) : Cursor :=
  Cursor.advance ((cursor.rest.take (indent - cursor.column)).takeWhile (· == ' ')).length cursor

def blockBreaks (indent : Nat) : Nat → List Char → Cursor → List Char × Cursor
  | 0, done, cursor => (done, cursor)
  | fuel + 1, done, cursor =>
    let cursor := skipIndentation indent cursor
    if cursor.at_ isBreak then
      let (lineBreak, cursor) := cursor.lineBreak
      blockBreaks indent fuel (done ++ lineBreak) cursor
    else (done, cursor)

def atBlockLine (indent : Nat) (cursor : Cursor) : Bool :=
  cursor.column == indent && !cursor.rest.isEmpty

def atText (cursor : Cursor) : Bool :=
  cursor.atEndOr fun character => !(character == ' ' || character == '\t')

structure BlockTail where
  done : List (List Char)
  lineBreak : List Char
  breaks : List Char
  cursor : Cursor

def readBlockLines (isFolded : Bool) (indent : Nat) :
    Nat → List (List Char) → List Char → Cursor → BlockTail
  | 0, done, breaks, cursor => ⟨done, [], breaks, cursor⟩
  | fuel + 1, done, breaks, cursor =>
    let startsWithText := atText cursor
    let (line, cursor) := cursor.take fun character => !isBreak character
    let done := line :: breaks :: done
    let (lineBreak, cursor) := cursor.lineBreak
    let (breaks, cursor) := blockBreaks indent fuel [] cursor
    if atBlockLine indent cursor then
      let joint :=
        if isFolded && lineBreak == ['\n'] && startsWithText && atText cursor then
          if breaks.isEmpty then [' '] else []
        else lineBreak
      readBlockLines isFolded indent fuel (joint :: done) breaks cursor
    else ⟨done, lineBreak, breaks, cursor⟩

def readBlock (isFolded : Bool) (parentIndent : Int) (fuel : Nat) (cursor : Cursor) :
    Except DocumentFault ReadScalar := do
  let (header, cursor) ← readBlockHeader cursor.next
  let least := (max (parentIndent + 1) 1).toNat
  let (breaks, indent, cursor) :=
    match header.indentation with
    | some digit =>
      let indent := least + digit - 1
      let (breaks, cursor) := blockBreaks indent fuel [] cursor
      (breaks, indent, cursor)
    | none =>
      let (breaks, greatest, cursor) := leadingBreaks fuel [] 0 cursor
      (breaks, max least greatest, cursor)
  let tail :=
    if atBlockLine indent cursor then readBlockLines isFolded indent fuel [] breaks cursor
    else ⟨[], [], breaks, cursor⟩
  let ending :=
    match header.chomping with
    | .strip => []
    | .clip => tail.lineBreak
    | .keep => tail.lineBreak ++ tail.breaks
  .ok ⟨String.ofList (tail.done.reverse.flatten ++ ending), tail.cursor, true⟩

end TolerantValidation.Yaml
