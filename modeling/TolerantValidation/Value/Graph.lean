import TolerantValidation.Value.Entries

/-!
Values from graphs of containers. A container that does not lead to a cycle becomes a tree; the
others stay together in a knot.
-/

namespace TolerantValidation.Value

def resolve (trees : Array (Option Value)) : Link Value → Link Value
  | .value value => .value value
  | .cell index =>
    match trees[index]? with
    | some (some tree) => .value tree
    | _ => .cell index

def outside? : Link Value → Option Value
  | .value value => some value
  | .cell _ => none

def resolveCell (trees : Array (Option Value)) : Cell Value → Cell Value
  | .collection kind links => .collection kind (links.map (resolve trees))
  | .mapping entries => .mapping (entries.map fun entry => (entry.1, resolve trees entry.2))

def treeOfCell? : Cell Value → Option Value
  | .collection kind links => (links.mapM outside?).map (.collection kind)
  | .mapping entries =>
    (entries.mapM fun entry => (outside? entry.2).map fun value => (entry.1, value)).map .mapping

def resolvePass (cells : Array (Cell Value)) (trees : Array (Option Value)) :
    Array (Option Value) :=
  (List.range cells.size).foldr (fun index known =>
    match known[index]?, cells[index]? with
    | some none, some cell => known.set! index (treeOfCell? (resolveCell known cell))
    | _, _ => known) trees

def resolveAll (cells : Array (Cell Value)) : Nat → Array (Option Value) → Array (Option Value)
  | 0, trees => trees
  | fuel + 1, trees =>
    let more := resolvePass cells trees
    if more.countP Option.isSome = trees.countP Option.isSome then trees
    else resolveAll cells fuel more

def ofGraph (cells : Array (Cell Value)) (entry : Link Value) : Value :=
  let trees := resolveAll cells cells.size (Array.replicate cells.size none)
  match resolve trees entry with
  | .value value => value
  | .cell index => .knot (cells.toList.map (resolveCell trees)) index

end TolerantValidation.Value
