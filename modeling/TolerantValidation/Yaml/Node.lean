import TolerantValidation.Yaml.Event
import TolerantValidation.Yaml.Tag

/-!
Nodes: a document as a graph. An alias leads to the node with its anchor, which may be a collection
that the alias stands in, so nodes refer to each other by number.
-/

namespace TolerantValidation.Yaml

inductive Content where
  | scalar (text : String)
  | sequence (items : List Nat)
  | mapping (entries : List (Nat × Nat))

structure Node where
  tag : String
  content : Content

structure Graph where
  nodes : Array Node
  root : Nat

inductive OpenNode where
  | sequence (node : Nat) (items : List Nat)
  | mapping (node : Nat) (entries : List (Nat × Nat)) (key : Option Nat)

structure GraphReader where
  nodes : Array Node := #[]
  anchors : List (String × Nat) := []
  opened : List OpenNode := []
  root : Option Nat := none

def depthLimit : Nat := 400

namespace GraphReader

def attach (node : Nat) (reader : GraphReader) : GraphReader :=
  match reader.opened with
  | [] => { reader with root := some node }
  | .sequence owner items :: outer =>
    { reader with opened := .sequence owner (node :: items) :: outer }
  | .mapping owner entries none :: outer =>
    { reader with opened := .mapping owner entries (some node) :: outer }
  | .mapping owner entries (some key) :: outer =>
    { reader with opened := .mapping owner ((key, node) :: entries) none :: outer }

def add (properties : Properties) (openTag : String) (content : Content) (reader : GraphReader) :
    Except DocumentFault GraphReader :=
  let node := reader.nodes.size
  let nodes := reader.nodes.push
    ⟨if EventReader.isOpenTag properties.tag then openTag else properties.tag.getD openTag, content⟩
  match properties.anchor with
  | none => .ok { reader with nodes }
  | some name =>
    if reader.anchors.any (·.1 == name) then malformed
    else .ok { reader with nodes, anchors := (name, node) :: reader.anchors }

def fill (node : Nat) (content : Content) (reader : GraphReader) : GraphReader :=
  { reader with nodes := reader.nodes.modify node fun empty => { empty with content } }

def close (reader : GraphReader) : GraphReader :=
  match reader.opened with
  | [] => reader
  | .sequence node items :: outer =>
    ({ reader with opened := outer }.fill node (.sequence items.reverse)).attach node
  | .mapping node entries _ :: outer =>
    ({ reader with opened := outer }.fill node (.mapping entries.reverse)).attach node

def enter (opening : Nat → OpenNode) (reader : GraphReader) : Except DocumentFault GraphReader :=
  if reader.opened.length < depthLimit then
    .ok { reader with opened := opening (reader.nodes.size - 1) :: reader.opened }
  else .error .tooDeep

def step (event : Event) (reader : GraphReader) : Except DocumentFault GraphReader :=
  match event with
  | .documentStart | .documentEnd => .ok reader
  | .alias name =>
    match reader.anchors.lookup name with
    | some node => .ok (reader.attach node)
    | none => malformed
  | .scalar properties isOpen text => do
    let openTag := if isOpen then tagOfText text else coreTag "str"
    let reader ← reader.add properties openTag (.scalar text)
    .ok (reader.attach (reader.nodes.size - 1))
  | .sequenceStart properties => do
    let reader ← reader.add properties (coreTag "seq") (.sequence [])
    reader.enter fun node => .sequence node []
  | .mappingStart properties => do
    let reader ← reader.add properties (coreTag "map") (.mapping [])
    reader.enter fun node => .mapping node [] none
  | .sequenceEnd | .mappingEnd => .ok reader.close

end GraphReader

/-- Reads the events of one document, with what follows it. A text that ends within the document
does so with a fault. -/
def readGraph (fault : Option DocumentFault) : GraphReader → List Event →
    Except DocumentFault (Graph × List Event)
  | _, [] => .error (fault.getD (.malformed .yaml))
  | reader, .documentEnd :: events => .ok (⟨reader.nodes, reader.root.getD 0⟩, events)
  | reader, event :: events =>
    match reader.step event with
    | .ok reader => readGraph fault reader events
    | .error fault => .error fault

theorem length_readGraph {fault : Option DocumentFault} {reader : GraphReader}
    {events rest : List Event} {graph : Graph}
    (read : readGraph fault reader events = .ok (graph, rest)) : rest.length < events.length := by
  fun_induction readGraph fault reader events with
  | case1 => simp at read
  | case2 reader events =>
    rw [Except.ok.injEq, Prod.mk.injEq] at read
    rw [read.2, List.length_cons]
    exact Nat.lt_succ_self _
  | case3 reader event events _ next stepped ih => exact Nat.lt_succ_of_lt (ih read)
  | case4 => simp at read

end TolerantValidation.Yaml
