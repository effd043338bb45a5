import TolerantValidation.Yaml.Construction
import TolerantValidation.Document.Template

/-!
YAML: streams of documents. A text is read as a single document or as all the documents in it.
-/

namespace TolerantValidation.Yaml

structure Options where
  meanings : TagMeanings := []
  removesTemplates : Bool := false
deriving DecidableEq

namespace Options

def prepare (options : Options) (text : String) : String :=
  if options.removesTemplates then Document.Template.removeAll text else text

def events (options : Options) (text : String) : Events :=
  Events.ofTokens (Tokens.ofText (options.prepare text))

end Options

section Documents

variable {Stop Built : Type} (ofFault : DocumentFault → Stop) (build : Graph → Except Stop Built)

def atEnd {Answer : Type} (fault : Option DocumentFault) (answer : Except Stop Answer) :
    Except Stop Answer :=
  match fault with
  | none => answer
  | some fault => .error (ofFault fault)

/-- The documents that events make. Each one is built before the next one is looked at. -/
def documentsOf (fault : Option DocumentFault) (events : List Event) :
    Except Stop (List Built) :=
  match events with
  | [] => atEnd ofFault fault (.ok [])
  | first :: more =>
    match _ : readGraph fault {} (first :: more) with
    | .error fault => .error (ofFault fault)
    | .ok (graph, rest) => do
      let document ← build graph
      let documents ← documentsOf fault rest
      .ok (document :: documents)
termination_by events.length
decreasing_by exact length_readGraph ‹_›

/-- The document that events make if there is one at most. It is built after the end of the text is
seen. -/
def documentOf (nothing : Built) (fault : Option DocumentFault) (events : List Event) :
    Except Stop Built :=
  match events with
  | [] => atEnd ofFault fault (.ok nothing)
  | first :: more =>
    match readGraph fault {} (first :: more) with
    | .error fault => .error (ofFault fault)
    | .ok (graph, []) => atEnd ofFault fault (build graph)
    | .ok (_, _ :: _) => .error (ofFault (.malformed .yaml))

end Documents

def readAll (options : Options) (text : String) : Except DocumentFault (List Value) :=
  let events := options.events text
  documentsOf id (Graph.toValue options.meanings) events.fault events.list

def readSingle (options : Options) (text : String) : Except DocumentFault Value :=
  let events := options.events text
  documentOf id (Graph.toValue options.meanings) .null events.fault events.list

end TolerantValidation.Yaml
