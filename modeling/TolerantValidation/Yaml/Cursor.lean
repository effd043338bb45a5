/-!
Cursors: places in a YAML text. A cursor knows what is left of the text, and how many characters,
lines and columns lie before it.
-/

namespace TolerantValidation.Yaml

def isBreak (character : Char) : Bool :=
  character == '\n' || character == '\r' || character == '\x85' || character == '\u2028' ||
    character == '\u2029'

def isSeparator (character : Char) : Bool :=
  character == ' ' || character == '\t' || isBreak character

structure Cursor where
  rest : List Char
  index : Nat := 0
  line : Nat := 0
  column : Nat := 0

namespace Cursor

def peek? (cursor : Cursor) : Option Char :=
  cursor.rest.head?

def at_ (cursor : Cursor) (holds : Char → Bool) : Bool :=
  match cursor.rest with
  | [] => false
  | character :: _ => holds character

def atEndOr (cursor : Cursor) (holds : Char → Bool) : Bool :=
  match cursor.rest with
  | [] => true
  | character :: _ => holds character

def next (cursor : Cursor) : Cursor :=
  match cursor.rest with
  | [] => cursor
  | character :: rest =>
    if isBreak character && !(character == '\r' && rest.head? == some '\n') then
      ⟨rest, cursor.index + 1, cursor.line + 1, 0⟩
    else if character == '\uFEFF' then { cursor with rest, index := cursor.index + 1 }
    else ⟨rest, cursor.index + 1, cursor.line, cursor.column + 1⟩

def advance : Nat → Cursor → Cursor
  | 0, cursor => cursor
  | count + 1, cursor => advance count cursor.next

def skip (holds : Char → Bool) (cursor : Cursor) : Cursor :=
  advance (cursor.rest.takeWhile holds).length cursor

def take (holds : Char → Bool) (cursor : Cursor) : List Char × Cursor :=
  let taken := cursor.rest.takeWhile holds
  (taken, advance taken.length cursor)

def skipSpaces (cursor : Cursor) : Cursor :=
  cursor.skip (· == ' ')

def skipLine (cursor : Cursor) : Cursor :=
  cursor.skip fun character => !isBreak character

def lineBreak (cursor : Cursor) : List Char × Cursor :=
  match cursor.rest with
  | '\r' :: '\n' :: _ => (['\n'], advance 2 cursor)
  | character :: _ =>
    if character == '\u2028' || character == '\u2029' then ([character], cursor.next)
    else if isBreak character then (['\n'], cursor.next)
    else ([], cursor)
  | [] => ([], cursor)

def atMark (mark : List Char) (cursor : Cursor) : Bool :=
  mark.isPrefixOf cursor.rest && ((cursor.rest.drop mark.length).head?.map isSeparator).getD true

def startMark : List Char := ['-', '-', '-']

def endMark : List Char := ['.', '.', '.']

def atDocumentMark (cursor : Cursor) : Bool :=
  cursor.atMark startMark || cursor.atMark endMark

end Cursor
end TolerantValidation.Yaml
