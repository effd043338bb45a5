import TolerantValidation.Yaml.Token.Lexer

/-!
Events: the beginnings and ends of documents and collections, and the scalars and aliases between
them, in the order of the text. A text that breaks the grammar has the events before that place.
-/

namespace TolerantValidation.Yaml

structure Properties where
  anchor : Option String := none
  tag : Option String := none

inductive Event where
  | documentStart
  | documentEnd
  | alias (name : String)
  | scalar (properties : Properties) (open_ : Bool) (text : String)
  | sequenceStart (properties : Properties)
  | sequenceEnd
  | mappingStart (properties : Properties)
  | mappingEnd

inductive Expectation where
  | firstDocument
  | document
  | documentContent
  | documentEnd
  | node (inBlock : Bool) (mayBeUnindented : Bool)
  | blockEntry
  | unindentedEntry
  | blockKey
  | blockValue
  | flowEntry (first : Bool)
  | pairKey
  | pairValue
  | pairEnd
  | flowKey (first : Bool)
  | flowValue
  | emptyFlowValue

inductive Stop where
  | ended
  /-- No token follows, because of the fault that cut the tokens off. -/
  | cutOff
  | refused

structure EventReader where
  tokens : List Token
  expected : List Expectation := [.firstDocument]
  handles : List (String × String) := []

namespace EventReader

abbrev Step := Except Stop (Event × EventReader)

def commonHandles : List (String × String) :=
  [("!", "!"), ("!!", "tag:yaml.org,2002:")]

def emptyScalar : Event :=
  .scalar {} true ""

def readDirectives : Bool → List (String × String) → List Token →
    Except Stop (List (String × String) × List Token)
  | hasVersion, handles, .directive directive :: tokens =>
    match directive with
    | .version major =>
      if hasVersion || major != 1 then .error .refused else readDirectives true handles tokens
    | .tag handle expansion =>
      if handles.any (·.1 == handle) then .error .refused
      else readDirectives hasVersion ((handle, expansion) :: handles) tokens
    | .other => readDirectives hasVersion handles tokens
  | _, _, [] => .error .cutOff
  | _, handles, tokens => .ok (handles ++ commonHandles, tokens)

def readDocument (rest : List Expectation) : List Token → Step
  | .documentEnd :: tokens => readDocument rest tokens
  | .textEnd :: _ => .error .ended
  | tokens => do
    let (handles, tokens) ← readDirectives false [] tokens
    match tokens with
    | .documentStart :: tokens =>
      .ok (.documentStart, ⟨tokens, .documentContent :: .documentEnd :: rest, handles⟩)
    | [] => .error .cutOff
    | _ => .error .refused

def expandTag (handles : List (String × String)) (tag : WrittenTag) : Except Stop String :=
  match tag.handle with
  | none => .ok tag.suffix
  | some handle =>
    match handles.lookup handle with
    | some expansion => .ok (expansion ++ tag.suffix)
    | none => .error .refused

def readProperties (handles : List (String × String)) (tokens : List Token) :
    Except Stop (Properties × List Token) := do
  let expand := expandTag handles
  match tokens with
  | .anchor name :: .tag tag :: tokens => .ok (⟨some name, some (← expand tag)⟩, tokens)
  | .tag tag :: .anchor name :: tokens => .ok (⟨some name, some (← expand tag)⟩, tokens)
  | [.anchor _] => .error .cutOff
  | [.tag _] => .error .cutOff
  | .anchor name :: tokens => .ok (⟨some name, none⟩, tokens)
  | .tag tag :: tokens => .ok (⟨none, some (← expand tag)⟩, tokens)
  | tokens => .ok ({}, tokens)

def isOpenTag (tag : Option String) : Bool :=
  tag == none || tag == some "!"

/-- A node. An unindented sequence can only stand as the value or key of a block mapping. -/
def readNode (inBlock mayBeUnindented : Bool) (reader : EventReader) : Step := do
  let rest := reader.expected
  match reader.tokens with
  | .alias name :: tokens => .ok (.alias name, { reader with tokens })
  | _ =>
    let (properties, tokens) ← readProperties reader.handles reader.tokens
    match tokens with
    | [] => .error .cutOff
    | .scalar text plain :: tokens =>
      let isOpen := (plain && properties.tag == none) || properties.tag == some "!"
      .ok (.scalar properties isOpen text, { reader with tokens })
    | .flowSequenceStart :: tokens =>
      .ok (.sequenceStart properties, { reader with tokens, expected := .flowEntry true :: rest })
    | .flowMappingStart :: tokens =>
      .ok (.mappingStart properties, { reader with tokens, expected := .flowKey true :: rest })
    | token :: after =>
      match inBlock, token with
      | true, .blockSequenceStart =>
        .ok (.sequenceStart properties,
          { reader with tokens := after, expected := .blockEntry :: rest })
      | true, .blockMappingStart =>
        .ok (.mappingStart properties,
          { reader with tokens := after, expected := .blockKey :: rest })
      | _, _ =>
        match mayBeUnindented, token with
        | true, .blockEntry =>
          .ok (.sequenceStart properties,
            { reader with tokens, expected := .unindentedEntry :: rest })
        | _, _ =>
          if properties.anchor.isSome || properties.tag.isSome then
            .ok (.scalar properties (isOpenTag properties.tag) "", { reader with tokens })
          else .error .refused

def readOptional (isEmpty : Token → Bool) (inBlock mayBeUnindented : Bool) (tokens : List Token)
    (expected : List Expectation) (reader : EventReader) : Step :=
  match tokens with
  | [] => .error .cutOff
  | token :: _ =>
    if isEmpty token then .ok (emptyScalar, { reader with tokens, expected })
    else readNode inBlock mayBeUnindented { reader with tokens, expected }

def endsEntry : Token → Bool
  | .blockEntry | .blockEnd => true
  | _ => false

def endsUnindentedEntry : Token → Bool
  | .blockEntry | .key | .value | .blockEnd => true
  | _ => false

def endsBlockPart : Token → Bool
  | .key | .value | .blockEnd => true
  | _ => false

def endsFlowKey (closing : Token → Bool) : Token → Bool
  | .value | .flowEntry => true
  | token => closing token

def endsFlowValue (closing : Token → Bool) : Token → Bool
  | .flowEntry => true
  | token => closing token

def closesSequence : Token → Bool
  | .flowSequenceEnd => true
  | _ => false

def closesMapping : Token → Bool
  | .flowMappingEnd => true
  | _ => false

def dropComma (first : Bool) (tokens : List Token) : Except Stop (List Token) :=
  match first, tokens with
  | true, _ => .ok tokens
  | false, .flowEntry :: tokens => .ok tokens
  | false, _ => .error .refused

def readFlowEntry (first : Bool) (reader : EventReader) : Step := do
  let rest := reader.expected
  match reader.tokens with
  | .flowSequenceEnd :: tokens => .ok (.sequenceEnd, { reader with tokens })
  | tokens =>
    match ← dropComma first tokens with
    | [] => .error .cutOff
    | .key :: tokens =>
      .ok (.mappingStart {},
        { reader with tokens, expected := .pairKey :: .flowEntry false :: rest })
    | .flowSequenceEnd :: tokens => .ok (.sequenceEnd, { reader with tokens })
    | tokens => readNode false false { reader with tokens, expected := .flowEntry false :: rest }

def readFlowKey (first : Bool) (reader : EventReader) : Step := do
  let rest := reader.expected
  match reader.tokens with
  | .flowMappingEnd :: tokens => .ok (.mappingEnd, { reader with tokens })
  | tokens =>
    match ← dropComma first tokens with
    | [] => .error .cutOff
    | .key :: tokens =>
      readOptional (endsFlowKey closesMapping) false false tokens (.flowValue :: rest) reader
    | .flowMappingEnd :: tokens => .ok (.mappingEnd, { reader with tokens })
    | tokens => readNode false false { reader with tokens, expected := .emptyFlowValue :: rest }

/-- Reads what is expected; `reader.expected` holds what is expected after it. At least one token is
left. -/
def readExpected (expectation : Expectation) (reader : EventReader) : Step :=
  let rest := reader.expected
  match expectation, reader.tokens with
  | .firstDocument, tokens =>
    match tokens with
    | .directive _ :: _ | .documentStart :: _ | .textEnd :: _ => readDocument [.document] tokens
    | _ =>
      .ok (.documentStart,
        { reader with
          handles := commonHandles, expected := [.node true false, .documentEnd, .document] })
  | .document, tokens => readDocument [.document] tokens
  | .documentContent, tokens =>
    readOptional (fun
        | .directive _ | .documentStart | .documentEnd | .textEnd => true
        | _ => false)
      true false tokens rest reader
  | .documentEnd, .documentEnd :: tokens => .ok (.documentEnd, { reader with tokens })
  | .documentEnd, _ => .ok (.documentEnd, reader)
  | .node inBlock mayBeUnindented, _ => readNode inBlock mayBeUnindented reader
  | .blockEntry, .blockEntry :: tokens =>
    readOptional endsEntry true false tokens (.blockEntry :: rest) reader
  | .blockEntry, .blockEnd :: tokens => .ok (.sequenceEnd, { reader with tokens })
  | .blockEntry, _ => .error .refused
  | .unindentedEntry, .blockEntry :: tokens =>
    readOptional endsUnindentedEntry true false tokens (.unindentedEntry :: rest) reader
  | .unindentedEntry, _ => .ok (.sequenceEnd, reader)
  | .blockKey, .key :: tokens =>
    readOptional endsBlockPart true true tokens (.blockValue :: rest) reader
  | .blockKey, .blockEnd :: tokens => .ok (.mappingEnd, { reader with tokens })
  | .blockKey, _ => .error .refused
  | .blockValue, .value :: tokens =>
    readOptional endsBlockPart true true tokens (.blockKey :: rest) reader
  | .blockValue, _ => .ok (emptyScalar, { reader with expected := .blockKey :: rest })
  | .flowEntry first, _ => readFlowEntry first reader
  | .pairKey, tokens =>
    readOptional (endsFlowKey closesSequence) false false tokens (.pairValue :: rest) reader
  | .pairValue, .value :: tokens =>
    readOptional (endsFlowValue closesSequence) false false tokens (.pairEnd :: rest) reader
  | .pairValue, _ => .ok (emptyScalar, { reader with expected := .pairEnd :: rest })
  | .pairEnd, _ => .ok (.mappingEnd, reader)
  | .flowKey first, _ => readFlowKey first reader
  | .flowValue, .value :: tokens =>
    readOptional (endsFlowValue closesMapping) false false tokens (.flowKey false :: rest) reader
  | .flowValue, _ => .ok (emptyScalar, { reader with expected := .flowKey false :: rest })
  | .emptyFlowValue, _ => .ok (emptyScalar, { reader with expected := .flowKey false :: rest })

def step (reader : EventReader) : Step :=
  match reader.tokens, reader.expected with
  | [], _ => .error .cutOff
  | _, [] => .error .ended
  | _, expectation :: rest => readExpected expectation { reader with expected := rest }

def readAll : Nat → List Event → EventReader → List Event × Stop
  | 0, done, _ => (done.reverse, .refused)
  | fuel + 1, done, reader =>
    match reader.step with
    | .ok (event, reader) => readAll fuel (event :: done) reader
    | .error stop => (done.reverse, stop)

end EventReader

structure Events where
  list : List Event
  fault : Option DocumentFault

def Events.ofTokens (tokens : Tokens) : Events :=
  -- Between two tokens there are at most three events that take no token.
  let fuel := 4 * tokens.list.length + 4
  match EventReader.readAll fuel [] { tokens := tokens.list } with
  | (events, .ended) => ⟨events, none⟩
  | (events, .cutOff) => ⟨events, tokens.fault⟩
  | (events, .refused) => ⟨events, some (.malformed .yaml)⟩

end TolerantValidation.Yaml
