import TolerantValidation.Yaml.Node
import TolerantValidation.Yaml.Scalar.Meaning
import TolerantValidation.Value.Graph

/-!
The value of a document: what its nodes mean under their tags. Collections are filled after the node
around them, the outer ones first, so they may hold themselves. Callers may give further tags a
meaning; such nodes are built at once and cannot hold themselves.
-/

namespace TolerantValidation.Yaml

inductive TagMeaning where
  | sequence
  | scalar
  | mapping
  | constant (text : String)
deriving DecidableEq

abbrev TagMeanings := List (String × TagMeaning)

inductive Filling where
  | sequence
  | mapping
  | set
  | pairs

structure Unfilled where
  cell : Nat
  node : Nat
  filling : Filling

structure Builder where
  nodes : Array Node
  built : Array (Option (Link Value))
  cells : Array (Cell Value) := #[]
  unfilled : List Unfilled := []
  later : List Unfilled := []

abbrev Building := StateT Builder (Except DocumentFault)

namespace Building

def fail {Built : Type} (fault : DocumentFault) : Building Built :=
  fun _ => .error fault

def refuse {Built : Type} : Building Built :=
  fail (.malformed .yaml)

def ofExcept {Built : Type} (result : Except DocumentFault Built) : Building Built :=
  fun builder => result.map (·, builder)

def node (number : Nat) : Building Node := do
  match (← get).nodes[number]? with
  | some node => pure node
  | none => refuse

def addCell (cell : Cell Value) : Building Nat := do
  let builder ← get
  set { builder with cells := builder.cells.push cell }
  pure builder.cells.size

def setCell (number : Nat) (cell : Cell Value) : Building Unit := do
  modify fun builder => { builder with cells := builder.cells.set! number cell }

def addUnfilled (number : Nat) (filling : Filling) (cell : Cell Value) :
    Building (Link Value) := do
  let cell ← addCell cell
  modify fun builder => { builder with later := ⟨cell, number, filling⟩ :: builder.later }
  pure (.cell cell)

def scalarText : Nat → Nat → Building String
  | 0, _ => fail .tooDeep
  | fuel + 1, number => do
    match (← node number).content with
    | .scalar text => pure text
    | .sequence _ => refuse
    | .mapping entries =>
      let tags ← entries.mapM fun entry => do pure ((← node entry.1).tag, entry.2)
      match tags.lookup (coreTag "value") with
      | some value => scalarText fuel value
      | none => refuse

def entriesOf (number : Nat) : Building (List (Nat × Nat)) := do
  match (← node number).content with
  | .mapping entries => pure entries
  | _ => refuse

def setEntries (number : Nat) (entries : List (Nat × Nat)) : Building Unit := do
  modify fun builder => { builder with
    nodes := builder.nodes.modify number fun node => { node with content := .mapping entries } }

def nameDefaults (number : Nat) : Building Unit := do
  for entry in ← entriesOf number do
    if (← node entry.1).tag = coreTag "value" then
      modify fun builder => { builder with
        nodes := builder.nodes.modify entry.1 fun node => { node with tag := coreTag "str" } }

def reference? (entries : List (Nat × Nat)) : Building (Option (Nat × Nat)) := do
  let tags ← entries.mapM fun entry => do pure (← node entry.1).tag
  match tags.findIdx? (· == coreTag "merge") with
  | some place => pure (entries[place]?.map fun entry => (place, entry.2))
  | none => pure none

mutual

/-- Replaces the entries of a mapping that refer to other mappings by the entries of those: they
come before its own, and of several mappings in a list the last one comes first. Entries found so
far are given. -/
def merge : Nat → List (Nat × Nat) → Nat → Building Unit
  | 0, _, _ => fail .tooDeep
  | fuel + 1, merged, number => do
    let entries ← entriesOf number
    match ← reference? entries with
    | none => setEntries number (merged ++ entries)
    | some (place, referred) =>
      -- The reference is gone when the mapping it leads to is looked at, which may be this one.
      setEntries number (entries.eraseIdx place)
      let more ← referredEntries fuel referred
      merge fuel (merged ++ more) number

def referredEntries : Nat → Nat → Building (List (Nat × Nat))
  | 0, _ => fail .tooDeep
  | fuel + 1, number => do
    match (← node number).content with
    | .mapping _ =>
      merge fuel [] number
      entriesOf number
    | .sequence items =>
      let groups ← items.mapM fun item => do
        merge fuel [] item
        entriesOf item
      pure groups.reverse.flatten
    | .scalar _ => refuse

end

/-- Puts an entry under a key that was built from a node. One node is one key, even if it is no
number. -/
def putEntry (number : Nat) (key : Value) (value : Link Value) :
    List (Nat × Value × Link Value) → List (Nat × Value × Link Value)
  | [] => [(number, key, value)]
  | entry :: rest =>
    if number = entry.1 ∨ entry.2.1.sameKey key then (entry.1, entry.2.1, value) :: rest
    else entry :: putEntry number key value rest

def scalarValue (fuel : Nat) (number : Nat) (meaning : List Char → Except DocumentFault Value) :
    Building (Link Value) := do
  let text ← scalarText fuel number
  pure (.value (← ofExcept (meaning text.toList)))

def coreValue (fuel : Nat) (number : Nat) (tag : String) : Building (Link Value) := do
  if tag = coreTag "str" then
    pure (.value (.text (← scalarText fuel number)))
  else if tag = coreTag "map" then addUnfilled number .mapping (.mapping [])
  else if tag = coreTag "seq" then addUnfilled number .sequence (.collection .list [])
  else if tag = coreTag "null" then scalarValue fuel number fun _ => .ok .null
  else if tag = coreTag "bool" then
    scalarValue fuel number fun text => (flagOfScalar text).map .bool
  else if tag = coreTag "int" then
    scalarValue fuel number fun text => (wholeOfScalar text).map .int
  else if tag = coreTag "float" then
    scalarValue fuel number fun text => (realOfScalar text).map .float
  else if tag = coreTag "binary" then
    scalarValue fuel number fun text => (octetsOfScalar text).map .bytes
  else if tag = coreTag "timestamp" then
    let text ← scalarText fuel number
    match (← node number).content with
    | .scalar _ => pure (.value (← ofExcept (momentOfScalar text.toList)))
    | _ => fail .notText
  else if tag = coreTag "set" then addUnfilled number .set (.collection .set [])
  else if tag = coreTag "omap" || tag = coreTag "pairs" then
    addUnfilled number .pairs (.collection .list [])
  else refuse

def cellEntries (entries : List (Nat × Value × Link Value)) : List (Value × Link Value) :=
  entries.map Prod.snd

def mappingEntries (fuel : Nat) (build : Nat → Building (Link Value)) (number : Nat) :
    Building (List (Value × Link Value)) := do
  merge fuel [] number
  nameDefaults number
  let entries ← (← entriesOf number).foldlM (fun built entry => do
    match ← build entry.1 with
    | .cell _ => refuse
    | .value key => pure (putEntry entry.1 key (← build entry.2) built)) []
  pure (cellEntries entries)

def named (name : String) (value : Link Value) : Building (Link Value) := do
  pure (.cell (← addCell (.mapping [(.text name, value)])))

/-- The value of a node. The nodes around it that are being built at once are given. -/
def build (meanings : TagMeanings) (steps : Nat) : Nat → List Nat → Nat → Building (Link Value)
  | 0, _, _ => fail .tooDeep
  | fuel + 1, active, number => do
    match (← get).built[number]? with
    | some (some link) => pure link
    | _ =>
      if active.contains number then refuse
      else
        let inner := build meanings steps fuel (number :: active)
        let found ← node number
        let link ←
          match meanings.lookup found.tag with
          | none => coreValue steps number found.tag
          | some (.constant text) => pure (.value (.text text))
          | some .scalar => do
            named "scalar" (.value (.text (← scalarText steps number)))
          | some .mapping => do
            let entries ← mappingEntries steps inner number
            named "mapping" (.cell (← addCell (.mapping entries)))
          | some .sequence =>
            match found.content with
            | .sequence items => do
              let links ← items.mapM inner
              named "reference" (.cell (← addCell (.collection .list links)))
            | _ => refuse
        modify fun builder => { builder with built := builder.built.set! number (some link) }
        pure link

def pair (build : Nat → Building (Link Value)) (number : Nat) : Building (Link Value) := do
  match ← entriesOf number with
  | [(key, value)] =>
    let key ← build key
    let value ← build value
    pure (.cell (← addCell (.collection .tuple [key, value])))
  | _ => refuse

def itemsOf (number : Nat) : Building (List Nat) := do
  match (← node number).content with
  | .sequence items => pure items
  | _ => refuse

def filled (steps : Nat) (build : Nat → Building (Link Value)) (unfilled : Unfilled) :
    Building (Cell Value) := do
  match unfilled.filling with
  | .sequence => pure (.collection .list (← (← itemsOf unfilled.node).mapM build))
  | .mapping => pure (.mapping (← mappingEntries steps build unfilled.node))
  | .set =>
    let entries ← mappingEntries steps build unfilled.node
    pure (.collection .set (entries.map fun entry => .value entry.1))
  | .pairs => pure (.collection .list (← (← itemsOf unfilled.node).mapM (pair build)))

def fillAll (steps : Nat) (build : Nat → Building (Link Value)) : Nat → Building Unit
  | 0 => fail .tooDeep
  | fuel + 1 => do
    let builder ← get
    match builder.unfilled, builder.later with
    | [], [] => pure ()
    | [], later => do
      set { builder with unfilled := later.reverse, later := [] }
      fillAll steps build fuel
    | next :: rest, _ => do
      set { builder with unfilled := rest }
      setCell next.cell (← filled steps build next)
      fillAll steps build fuel

end Building

def Graph.size (graph : Graph) : Nat :=
  graph.nodes.foldl (fun total node => total + 1 +
    match node.content with
    | .scalar _ => 0
    | .sequence items => items.length
    | .mapping entries => 2 * entries.length) 0

def Graph.toValue (meanings : TagMeanings) (graph : Graph) : Except DocumentFault Value :=
  let steps := 4 * graph.size + 4
  let build := Building.build meanings steps steps []
  let building : Building (Link Value) := do
    let link ← build graph.root
    Building.fillAll steps build steps
    pure link
  match building.run { nodes := graph.nodes, built := graph.nodes.map fun _ => none } with
  | .ok (link, builder) => .ok (Value.ofGraph builder.cells link)
  | .error fault => .error fault

end TolerantValidation.Yaml
