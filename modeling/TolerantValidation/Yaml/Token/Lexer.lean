import TolerantValidation.Yaml.Mark

/-!
The tokens of a YAML text. A colon may turn what stands before it on its line into a key: until that
is decided the tokens since the beginning of the possible key are unsettled. A fault in the text
hides the tokens that are unsettled when it is met.
-/

namespace TolerantValidation.Yaml

structure PossibleKey where
  level : Int
  position : Nat
  required : Bool
  index : Nat
  line : Nat
  column : Nat

def keyLimit : Nat := 1024

structure Lexer where
  cursor : Cursor
  tokens : List Token := []
  count : Nat := 0
  level : Int := 0
  /-- The column of the innermost open block, and those of the blocks around it. -/
  indent : Int := -1
  outer : List Int := []
  keyAllowed : Bool := true
  keys : List PossibleKey := []
  /-- A bound on the steps that reading a single token takes. -/
  fuel : Nat

namespace Lexer

def inFlow (lexer : Lexer) : Bool :=
  lexer.level != 0

def push (token : Token) (lexer : Lexer) : Lexer :=
  { lexer with tokens := token :: lexer.tokens, count := lexer.count + 1 }

def insert (position : Nat) (token : Token) (lexer : Lexer) : Lexer :=
  { lexer with
    tokens := lexer.tokens.insertIdx (lexer.count - position) token
    count := lexer.count + 1 }

/-- Drops the keys that the text has left behind: they are on an earlier line, or too far back. -/
def dropStale (lexer : Lexer) : Except DocumentFault Lexer :=
  let isStale (key : PossibleKey) : Bool :=
    key.line != lexer.cursor.line || lexer.cursor.index - key.index > keyLimit
  if lexer.keys.any fun key => isStale key && key.required then malformed
  else .ok { lexer with keys := lexer.keys.filter fun key => !isStale key }

def dropKey (lexer : Lexer) : Except DocumentFault Lexer :=
  if lexer.keys.any fun key => key.level == lexer.level && key.required then malformed
  else .ok { lexer with keys := lexer.keys.filter fun key => key.level != lexer.level }

def noteKey (lexer : Lexer) : Except DocumentFault Lexer :=
  if lexer.keyAllowed then do
    let lexer ← lexer.dropKey
    let key :=
      { level := lexer.level, position := lexer.count
        required := !lexer.inFlow && lexer.indent == (lexer.cursor.column : Int)
        index := lexer.cursor.index, line := lexer.cursor.line, column := lexer.cursor.column }
    .ok { lexer with keys := key :: lexer.keys }
  else .ok lexer

def endBlocks (column : Int) : List Int → Lexer → Lexer
  | [], lexer => lexer
  | parent :: outer, lexer =>
    if !lexer.inFlow && column < lexer.indent then
      endBlocks column outer { (lexer.push .blockEnd) with indent := parent, outer }
    else lexer

def unwind (column : Int) (lexer : Lexer) : Lexer :=
  lexer.endBlocks column lexer.outer

def beginBlock (column : Nat) (position : Nat) (token : Token) (lexer : Lexer) : Lexer :=
  if lexer.indent < (column : Int) then
    { (lexer.insert position token) with
      indent := column, outer := lexer.indent :: lexer.outer }
  else lexer

def isSeparated (cursor : Cursor) : Bool :=
  cursor.next.atEndOr isSeparator

def indicators : List Char :=
  "-?:,[]\x7b\x7d#&*!|>'\"%@`".toList

def startsPlain (lexer : Lexer) (character : Char) : Bool :=
  !(isSeparator character || indicators.contains character) ||
    (!isSeparated lexer.cursor &&
      (character == '-' || (!lexer.inFlow && (character == '?' || character == ':'))))

def skipBlanks : Nat → Lexer → Lexer
  | 0, lexer => lexer
  | fuel + 1, lexer =>
    let cursor := lexer.cursor.skipSpaces
    let cursor := if cursor.at_ (· == '#') then cursor.skipLine else cursor
    if cursor.at_ isBreak then
      skipBlanks fuel
        { lexer with
          cursor := cursor.lineBreak.2
          keyAllowed := lexer.keyAllowed || !lexer.inFlow }
    else { lexer with cursor }

/-! ### One token -/

def readEnd (lexer : Lexer) : Except DocumentFault Lexer := do
  let lexer ← (lexer.unwind (-1)).dropKey
  .ok (lexer.push .textEnd)

def readDirective (lexer : Lexer) : Except DocumentFault Lexer := do
  let lexer ← (lexer.unwind (-1)).dropKey
  let (directive, cursor) ← Yaml.readDirective lexer.fuel lexer.cursor
  .ok ({ lexer with cursor, keyAllowed := false }.push (.directive directive))

def readDocumentMark (token : Token) (lexer : Lexer) : Except DocumentFault Lexer := do
  let lexer ← (lexer.unwind (-1)).dropKey
  .ok ({ lexer with cursor := Cursor.advance 3 lexer.cursor, keyAllowed := false }.push token)

def takeOne (token : Token) (lexer : Lexer) : Lexer :=
  { lexer with cursor := lexer.cursor.next }.push token

def openFlow (token : Token) (lexer : Lexer) : Except DocumentFault Lexer := do
  let lexer ← lexer.noteKey
  .ok ({ lexer with level := lexer.level + 1, keyAllowed := true }.takeOne token)

def closeFlow (token : Token) (lexer : Lexer) : Except DocumentFault Lexer := do
  let lexer ← lexer.dropKey
  .ok ({ lexer with level := lexer.level - 1, keyAllowed := false }.takeOne token)

def readFlowEntry (lexer : Lexer) : Except DocumentFault Lexer := do
  let lexer ← lexer.dropKey
  .ok ({ lexer with keyAllowed := true }.takeOne .flowEntry)

def enterBlock (token : Token) (lexer : Lexer) : Except DocumentFault Lexer :=
  if lexer.inFlow then .ok lexer
  else if lexer.keyAllowed then .ok (lexer.beginBlock lexer.cursor.column lexer.count token)
  else malformed

def readBlockEntry (lexer : Lexer) : Except DocumentFault Lexer := do
  let lexer ← (← lexer.enterBlock .blockSequenceStart).dropKey
  .ok ({ lexer with keyAllowed := true }.takeOne .blockEntry)

def readKey (lexer : Lexer) : Except DocumentFault Lexer := do
  let lexer ← (← lexer.enterBlock .blockMappingStart).dropKey
  .ok ({ lexer with keyAllowed := !lexer.inFlow }.takeOne .key)

def readValue (lexer : Lexer) : Except DocumentFault Lexer := do
  match lexer.keys.find? fun key => key.level == lexer.level with
  | some key =>
    let lexer := { lexer with
      keys := lexer.keys.filter fun key => key.level != lexer.level
      keyAllowed := false }
    let lexer := lexer.insert key.position .key
    let lexer :=
      if lexer.inFlow then lexer
      else lexer.beginBlock key.column key.position .blockMappingStart
    .ok (lexer.takeOne .value)
  | none =>
    let lexer ← (← lexer.enterBlock .blockMappingStart).dropKey
    .ok ({ lexer with keyAllowed := !lexer.inFlow }.takeOne .value)

def readNamed (token : String → Token) (lexer : Lexer) : Except DocumentFault Lexer := do
  let lexer ← lexer.noteKey
  let (name, cursor) ← readName lexer.cursor.next
  .ok ({ lexer with cursor, keyAllowed := false }.push (token name))

def readTag (lexer : Lexer) : Except DocumentFault Lexer := do
  let lexer ← lexer.noteKey
  let (tag, cursor) ← Yaml.readTag lexer.fuel lexer.cursor
  .ok ({ lexer with cursor, keyAllowed := false }.push (.tag tag))

def readBlock (isFolded : Bool) (lexer : Lexer) : Except DocumentFault Lexer := do
  let lexer ← lexer.dropKey
  let scalar ← Yaml.readBlock isFolded lexer.indent lexer.fuel lexer.cursor
  .ok ({ lexer with cursor := scalar.cursor, keyAllowed := true }.push
    (.scalar scalar.text false))

def readQuoted (double : Bool) (lexer : Lexer) : Except DocumentFault Lexer := do
  let lexer ← lexer.noteKey
  let scalar ← Yaml.readQuoted double lexer.fuel lexer.cursor
  .ok ({ lexer with cursor := scalar.cursor, keyAllowed := false }.push
    (.scalar scalar.text false))

def readPlain (lexer : Lexer) : Except DocumentFault Lexer := do
  let lexer ← lexer.noteKey
  let scalar := Yaml.readPlain lexer.inFlow (lexer.indent + 1) lexer.fuel lexer.cursor
  .ok ({ lexer with cursor := scalar.cursor, keyAllowed := scalar.atLineStart }.push
    (.scalar scalar.text true))

def readToken (character : Char) (lexer : Lexer) : Except DocumentFault Lexer :=
  let cursor := lexer.cursor
  if character = '%' ∧ cursor.column = 0 then lexer.readDirective
  else if cursor.column = 0 ∧ cursor.atMark Cursor.startMark then
    lexer.readDocumentMark .documentStart
  else if cursor.column = 0 ∧ cursor.atMark Cursor.endMark then
    lexer.readDocumentMark .documentEnd
  else
    let isMark := lexer.inFlow || isSeparated cursor
    match character with
    | '[' => lexer.openFlow .flowSequenceStart
    | '{' => lexer.openFlow .flowMappingStart
    | ']' => lexer.closeFlow .flowSequenceEnd
    | '}' => lexer.closeFlow .flowMappingEnd
    | ',' => lexer.readFlowEntry
    | '*' => lexer.readNamed .alias
    | '&' => lexer.readNamed .anchor
    | '!' => lexer.readTag
    | '\'' => lexer.readQuoted false
    | '"' => lexer.readQuoted true
    | _ =>
      if character = '-' ∧ isSeparated cursor then lexer.readBlockEntry
      else if character = '?' ∧ isMark then lexer.readKey
      else if character = ':' ∧ isMark then lexer.readValue
      else if character = '|' ∧ !lexer.inFlow then lexer.readBlock false
      else if character = '>' ∧ !lexer.inFlow then lexer.readBlock true
      else if lexer.startsPlain character then lexer.readPlain
      else malformed

/-- How many tokens no later character can change. -/
def settled (lexer : Lexer) : Nat :=
  lexer.keys.foldl (fun least key => min least key.position) lexer.count

end Lexer

structure Tokens where
  list : List Token
  fault : Option DocumentFault

namespace Lexer

def stop (settled : Nat) (fault : DocumentFault) (lexer : Lexer) : Tokens :=
  ⟨lexer.tokens.reverse.take settled, some fault⟩

/-- Reads the tokens of a text to its end. Before the last token `settled` of them were settled. -/
def readAll : Nat → Nat → Lexer → Tokens
  | 0, settled, lexer => lexer.stop settled (.malformed .yaml)
  | fuel + 1, settled, lexer =>
    match lexer.dropStale with
    | .error fault => lexer.stop settled fault
    | .ok lexer =>
      let settled := lexer.settled
      match (lexer.skipBlanks lexer.fuel).dropStale with
      | .error fault => lexer.stop settled fault
      | .ok next =>
        let next := next.unwind next.cursor.column
        match next.cursor.peek? with
        | none =>
          match next.readEnd with
          | .ok ended => ⟨ended.tokens.reverse, none⟩
          | .error fault => lexer.stop settled fault
        | some character =>
          match next.readToken character with
          | .ok read => readAll fuel settled read
          | .error fault => lexer.stop settled fault

end Lexer

def isAllowed (character : Char) : Bool :=
  character == '\t' || character == '\n' || character == '\r' || character == '\x85' ||
    (' ' ≤ character && character ≤ '~') || ('\xA0' ≤ character && character.toNat < 0xFFFE) ||
    (0x10000 ≤ character.toNat && !Text.isUnpairedSurrogate character)

def Tokens.ofText (text : String) : Tokens :=
  let characters := text.toList
  if characters.all isAllowed then
    let start : Cursor := { rest := characters }
    let fuel := characters.length + 2
    Lexer.readAll fuel 0 { cursor := if start.at_ (· == '\uFEFF') then start.next else start, fuel }
  else ⟨[], some (.malformed .yaml)⟩

end TolerantValidation.Yaml
