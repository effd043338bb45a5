import TolerantValidation.Number.Binary64
import TolerantValidation.Calendar.DateTime

/-!
Values: the untyped data that validators read and write. A value is a finite tree, except that
containers may hold themselves: such containers form a knot, a finite graph of cells of which one
is the value.
-/

namespace TolerantValidation

inductive IssueCode where
  | invalidType
  | invalidValue
  | custom
deriving DecidableEq

def IssueCode.text : IssueCode → String
  | .invalidType => "invalid_type"
  | .invalidValue => "invalid_value"
  | .custom => "custom"

def IssueCode.label : IssueCode → String
  | .invalidType => "INVALID_TYPE"
  | .invalidValue => "INVALID_VALUE"
  | .custom => "CUSTOM"

structure IssueAt (Segment : Type) where
  code : IssueCode
  message : String
  path : List Segment := []
  fatal : Bool := false

structure FailureAt (Segment : Type) where
  issues : List (IssueAt Segment)
  message : String := "Validation failed"

inductive CollectionKind where
  | list
  | tuple
  | set
  | frozenSet
deriving DecidableEq

def CollectionKind.typeName : CollectionKind → String
  | .list => "list"
  | .tuple => "tuple"
  | .set => "set"
  | .frozenSet => "frozenset"

/-- What a container in a knot holds: a container of the same knot, by its number, or a value that
does not lead back into the knot. -/
inductive Link (Outside : Type) where
  | cell (index : Nat)
  | value (value : Outside)

inductive Cell (Outside : Type) where
  | collection (kind : CollectionKind) (links : List (Link Outside))
  | mapping (entries : List (Outside × Link Outside))

inductive Value where
  | null
  | bool (flag : Bool)
  | int (whole : Int)
  | float (number : Binary64)
  | text (text : String)
  | bytes (octets : List UInt8)
  | dateTime (moment : DateTime)
  | date (date : Date)
  | time (time : TimeOfDay) (offset : Option Offset)
  | collection (kind : CollectionKind) (items : List Value)
  | mapping (entries : List (Value × Value))
  | knot (cells : List (Cell Value)) (entry : Nat)
  | record (name : String) (fields : List (String × Value))
  /-- An error. One that is held in several places has a mark, by which it is told from others. -/
  | exception (kind : String) (message : Option String) (mark : Option Nat)
  | issue (issue : IssueAt Value)
  | failure (failure : FailureAt Value)
deriving Inhabited

abbrev Issue := IssueAt Value

abbrev Failure := FailureAt Value

namespace Value

@[match_pattern] abbrev list (items : List Value) : Value := .collection .list items

@[match_pattern] abbrev tuple (items : List Value) : Value := .collection .tuple items

/-- A value as its container holds it: `inside` when both are containers of one knot. -/
structure Held where
  value : Value
  inside : Bool

inductive View where
  | atom
  | collection (kind : CollectionKind) (items : List Held)
  | mapping (entries : List (Value × Held))

def follow (cells : List (Cell Value)) : Link Value → Held
  | .cell index => ⟨.knot cells index, true⟩
  | .value value => ⟨value, false⟩

def Cell.view (cells : List (Cell Value)) : Cell Value → View
  | .collection kind links => .collection kind (links.map (follow cells))
  | .mapping entries => .mapping (entries.map fun entry => (entry.1, follow cells entry.2))

def view : Value → View
  | .collection kind items => .collection kind (items.map (⟨·, false⟩))
  | .mapping entries => .mapping (entries.map fun entry => (entry.1, ⟨entry.2, false⟩))
  | .knot cells entry =>
    match cells[entry]? with
    | some cell => Cell.view cells cell
    | none => .atom
  | _ => .atom

def sequence? (value : Value) : Option (List Value) :=
  match value.view with
  | .collection .list items => some (items.map Held.value)
  | .collection .tuple items => some (items.map Held.value)
  | _ => none

def entries? (value : Value) : Option (List (Value × Value)) :=
  match value.view with
  | .mapping entries => some (entries.map fun entry => (entry.1, entry.2.value))
  | _ => none

def held (value : Value) : List Held :=
  match value.view with
  | .atom => []
  | .collection _ items => items
  | .mapping entries => entries.map (·.2)

def isContainer (value : Value) : Bool :=
  match value.view with
  | .atom => false
  | _ => true

@[simp] theorem sequence?_collection_list (items : List Value) :
    (Value.list items).sequence? = some items := by
  simp [sequence?, view, Function.comp_def]

@[simp] theorem sequence?_collection_tuple (items : List Value) :
    (Value.tuple items).sequence? = some items := by
  simp [sequence?, view, Function.comp_def]

@[simp] theorem entries?_mapping (entries : List (Value × Value)) :
    (Value.mapping entries).entries? = some entries := by
  simp [entries?, view, Function.comp_def]

def typeName (value : Value) : String :=
  match value.view with
  | .collection kind _ => kind.typeName
  | .mapping _ => "dict"
  | .atom =>
    match value with
    | .bool _ => "bool"
    | .int _ => "int"
    | .float _ => "float"
    | .text _ => "str"
    | .bytes _ => "bytes"
    | .dateTime _ => "datetime"
    | .date _ => "date"
    | .time _ _ => "time"
    | .record name _ => name
    | .exception kind _ _ => kind
    | .issue _ => "Issue"
    | .failure _ => "ValidationError"
    | _ => "NoneType"

/-- Whether a condition that yields the value holds: zero, nothing and what is empty do not. -/
def truthy (value : Value) : Bool :=
  match value.view with
  | .collection _ items => !items.isEmpty
  | .mapping entries => !entries.isEmpty
  | .atom =>
    match value with
    | .null => false
    | .bool flag => flag
    | .int whole => whole != 0
    | .float number => !number.isZero
    | .text characters => !characters.isEmpty
    | .bytes octets => !octets.isEmpty
    | _ => true

def length? (value : Value) : Option Nat :=
  match value.view with
  | .collection _ items => some items.length
  | .mapping entries => some entries.length
  | .atom =>
    match value with
    | .text characters => some characters.length
    | .bytes octets => some octets.length
    | _ => none

end Value
end TolerantValidation
