import TolerantValidation.Toml.Scalar
import TolerantValidation.Toml.Table

/-!
TOML: a table, given by entries and by headers that say in which table the entries after them lie.
-/

namespace TolerantValidation.Toml

def depthLimit : Nat := 400

mutual

def readValue : Nat → Nat → List Char → Except DocumentFault (Value × List Char)
  | 0, _, _ => .error .tooDeep
  | fuel + 1, depth, characters =>
    match characters with
    | '"' :: _ | '\'' :: _ => (readString characters).map fun (text, rest) => (.text text, rest)
    | '[' :: rest =>
      match depth with
      | 0 => .error .tooDeep
      | depth + 1 => do
        match ← skipBetween false rest with
        | ']' :: rest => .ok (.list [], rest)
        | rest => readItems fuel depth [] rest
    | '{' :: rest =>
      match depth with
      | 0 => .error .tooDeep
      | depth + 1 =>
        match skipSpaces rest with
        | '}' :: rest => .ok (.mapping [], rest)
        | rest => readEntries fuel depth {} [] rest
    | _ => readScalar characters

def readItems : Nat → Nat → List Value → List Char → Except DocumentFault (Value × List Char)
  | 0, _, _, _ => .error .tooDeep
  | fuel + 1, depth, done, characters => do
    let (item, rest) ← readValue fuel depth characters
    match ← skipBetween false rest with
    | ']' :: rest => .ok (.list (item :: done).reverse, rest)
    | ',' :: rest =>
      match ← skipBetween false rest with
      | ']' :: rest => .ok (.list (item :: done).reverse, rest)
      | rest => readItems fuel depth (item :: done) rest
    | _ => malformed

def readEntries :
    Nat → Nat → Closed → Entries → List Char → Except DocumentFault (Value × List Char)
  | 0, _, _, _, _ => .error .tooDeep
  | fuel + 1, depth, closed, table, characters => do
    let (key, value, rest) ← readEntry fuel depth characters
    if closed.isFrozen key then malformed
    else
      match update? false (insertNew? (key.getLast?.getD "") value) key.dropLast table with
      | none => malformed
      | some table =>
        match skipSpaces rest with
        | '}' :: rest => .ok (.mapping table, rest)
        | ',' :: rest =>
          let closed := if isFreezing value then closed.freeze key else closed
          readEntries fuel depth closed table (skipSpaces rest)
        | _ => malformed

def readEntry : Nat → Nat → List Char → Except DocumentFault (Path × Value × List Char)
  | 0, _, _ => .error .tooDeep
  | fuel + 1, depth, characters => do
    match ← readKey (fuel + 1) characters with
    | (key, '=' :: rest) => do
      let (value, rest) ← readValue fuel depth (skipSpaces rest)
      .ok (key, value, rest)
    | _ => malformed

end

structure Progress where
  table : Entries := []
  closed : Closed := {}
  header : Path := []
  /-- The tables that entries have opened since the last header. They count as declared from the
  next header on. -/
  opened : List Path := []

namespace Progress

def close (progress : Progress) : Progress :=
  { progress with
    closed := progress.opened.foldl Closed.declare progress.closed
    opened := [] }

def enterTable? (path : Path) (progress : Progress) : Option Progress := do
  let progress := progress.close
  if progress.closed.isDeclared path || progress.closed.isFrozen path then none
  else
    let table ← update? true some path progress.table
    some { progress with table, header := path, closed := progress.closed.declare path }

def enterListed? (path : Path) (progress : Progress) : Option Progress := do
  let progress := progress.close
  if progress.closed.isFrozen path then none
  else
    let table ← update? true (addListed? (path.getLast?.getD "")) path.dropLast progress.table
    some { progress with
      table, header := path, closed := (progress.closed.reopen path).declare path }

def opening (header : Path) (key : Path) : List Path :=
  (List.range (key.length - 1)).map fun length => header ++ key.take (length + 1)

def insert? (key : Path) (value : Value) (progress : Progress) : Option Progress := do
  let opening := opening progress.header key
  let parent := progress.header ++ key.dropLast
  if opening.any progress.closed.isDeclared || progress.closed.isFrozen parent then none
  else
    let table ←
      update? true (Toml.insertNew? (key.getLast?.getD "") value) parent progress.table
    some { progress with
      table, opened := opening ++ progress.opened
      closed :=
        if isFreezing value then progress.closed.freeze (progress.header ++ key)
        else progress.closed }

end Progress

def required (progress : Option Progress) : Except DocumentFault Progress :=
  match progress with
  | some progress => .ok progress
  | none => malformed

def readStatement (fuel : Nat) (progress : Progress) (characters : List Char) :
    Except DocumentFault (Progress × List Char) := do
  match characters with
  | '[' :: '[' :: rest =>
    let (path, rest) ← readKey fuel (skipSpaces rest)
    match progress.enterListed? path, rest with
    | some progress, ']' :: ']' :: rest => .ok (progress, rest)
    | _, _ => malformed
  | '[' :: rest =>
    let (path, rest) ← readKey fuel (skipSpaces rest)
    match progress.enterTable? path, rest with
    | some progress, ']' :: rest => .ok (progress, rest)
    | _, _ => malformed
  | '#' :: _ => .ok (progress, characters)
  | _ =>
    let (key, value, rest) ← readEntry fuel depthLimit characters
    .ok (← required (progress.insert? key value), rest)

/-- Reads the lines of a document. `steps` bounds the work within a line. -/
def readFrom (steps : Nat) : Nat → Progress → List Char → Except DocumentFault Value
  | 0, _, _ => .error .tooDeep
  | fuel + 1, progress, characters => do
    match skipSpaces characters with
    | [] => .ok (.mapping progress.table)
    | '\n' :: rest => readFrom steps fuel progress rest
    | statement =>
      let (progress, rest) ← readStatement steps progress statement
      match ← skipComment (skipSpaces rest) with
      | [] => .ok (.mapping progress.table)
      | '\n' :: rest => readFrom steps fuel progress rest
      | _ => malformed

def read (text : String) : Except DocumentFault Value :=
  let characters := withLineFeeds text.toList
  readFrom (2 * characters.length + 4) (characters.length + 1) {} characters

end TolerantValidation.Toml
