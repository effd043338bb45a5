import TolerantValidation.Value.Basic

/-!
Equality of values. Numbers of all types are equal by what they stand for, so one, one point zero
and true are equal; a list never equals a tuple; a set equals a frozen set of the same items;
mappings are equal whatever the order of their entries. Parts that are one object count as equal
without being compared, which matters for what is no number.
-/

namespace TolerantValidation.Value

def wholeOf? : Value → Option Int
  | .int whole => some whole
  | .bool flag => some (if flag then 1 else 0)
  | _ => none

def numericOrder? (left right : Value) : Option Ordering :=
  match left.wholeOf?, right.wholeOf?, left, right with
  | some first, some second, _, _ => some (compare first second)
  | some first, none, _, .float second => (second.orderInt? first).map Ordering.swap
  | none, some second, .float first, _ => first.orderInt? second
  | none, none, .float first, .float second => first.order? second
  | _, _, _, _ => none

def isNumeric : Value → Bool
  | .bool _ | .int _ | .float _ => true
  | _ => false

/-- Whether two values are one object. It is of interest only for values that do not equal
themselves: words without a number. -/
def isSameObject : Value → Value → Bool
  | .float left, .float right => left.isSharedNotANumber && left == right
  | _, _ => false

def sameOrEqual (equal : Value → Value → Option Bool) (left right : Value) : Option Bool :=
  if left.isSameObject right then some true else equal left right

def coveredBy (same : Value → Value → Option Bool) (left right : List Value) : Option Bool :=
  left.foldr (fun item rest => do
    if ← right.foldr (fun other found => do
        if ← same item other then some true else found) (some false)
    then rest else some false) (some true)

def pairwise (same : Value → Value → Option Bool) : List Value → List Value → Option Bool
  | [], [] => some true
  | first :: left, second :: right => do
    if ← same first second then pairwise same left right else some false
  | _, _ => some false

def lookUp (same : Value → Value → Option Bool) (key : Value) :
    List (Value × Value) → Option (Option Value)
  | [] => some none
  | entry :: rest => do
    if ← same entry.1 key then some (some entry.2) else lookUp same key rest

def entriesCoveredBy (same : Value → Value → Option Bool) (left right : List (Value × Value)) :
    Option Bool :=
  left.foldr (fun entry rest => do
    match ← lookUp same entry.1 right with
    | none => some false
    | some value => if ← same entry.2 value then rest else some false) (some true)

/-- Whether two values are equal; `none` when deciding it leads too deep. -/
def equalWithin : Nat → Value → Value → Option Bool
  | 0, _, _ => none
  | fuel + 1, left, right =>
    let same := sameOrEqual (equalWithin fuel)
    match left.view, right.view with
    | .collection kind items, .collection otherKind others =>
      let items := items.map Held.value
      let others := others.map Held.value
      let unordered (k : CollectionKind) : Bool := k = .set || k = .frozenSet
      if items.length ≠ others.length then some false
      else if unordered kind && unordered otherKind then
        coveredBy same items others
      else if kind = otherKind then pairwise same items others
      else some false
    | .mapping entries, .mapping others =>
      if entries.length ≠ others.length then some false
      else
        entriesCoveredBy same (entries.map fun entry => (entry.1, entry.2.value))
          (others.map fun entry => (entry.1, entry.2.value))
    | .atom, .atom =>
      if left.isNumeric && right.isNumeric then some (left.numericOrder? right == some .eq)
      else
        match left, right with
        | .null, .null => some true
        | .text first, .text second => some (first == second)
        | .bytes first, .bytes second => some (first == second)
        | .dateTime first, .dateTime second => some (first.same second)
        | .date first, .date second => some (first == second)
        | .time first firstOffset, .time second secondOffset =>
          let shift (offset : Option Offset) : Int := (offset.map Offset.microseconds).getD 0
          some (firstOffset.isSome == secondOffset.isSome &&
            (first.sinceMidnight : Int) - shift firstOffset ==
              (second.sinceMidnight : Int) - shift secondOffset)
        | .record name fields, .record otherName others =>
          if name = otherName ∧ fields.map Prod.fst = others.map Prod.fst then
            pairwise same (fields.map Prod.snd) (others.map Prod.snd)
          else some false
        | .issue first, .issue second =>
          if first.code = second.code ∧ first.message = second.message ∧
              first.path.length = second.path.length ∧ first.fatal = second.fatal then
            pairwise same first.path second.path
          else some false
        | .failure first, .failure second =>
          if first.message = second.message ∧ first.issues.length = second.issues.length then
            pairwise same (first.issues.map .issue) (second.issues.map .issue)
          else some false
        | .exception _ _ first, .exception _ _ second => some (first.isSome && first == second)
        | _, _ => some false
    | _, _ => some false

def comparisonLimit : Nat := 990

/-- How deep keys are hashed, which goes on far deeper than a comparison. -/
def hashLimit : Nat := 100000

def equal? (left right : Value) : Option Bool :=
  equalWithin comparisonLimit left right

/-- Whether two keys are one, however deep they nest. Keys are found by their hashes, so those that
differ are told apart without a comparison. -/
def sameKey (left right : Value) : Bool :=
  sameOrEqual (equalWithin hashLimit) left right == some true

inductive KeyFault where
  | unhashable (typeName : String)
  | tooDeep
deriving DecidableEq

def unhashable? : Value → Option KeyFault :=
  search hashLimit
where
  search : Nat → Value → Option KeyFault
    | 0, _ => some .tooDeep
    | fuel + 1, value =>
      match value.view with
      | .collection .tuple items => (items.map Held.value).findSome? (search fuel)
      | .collection .frozenSet _ => none
      | .collection kind _ => some (.unhashable kind.typeName)
      | .mapping _ => some (.unhashable "dict")
      | .atom =>
        match value with
        | .record name _ => some (.unhashable name)
        | .failure _ => some (.unhashable "ValidationError")
        | .issue failed => failed.path.findSome? (search fuel)
        | _ => none

def sameTooDeep (left right : Value) : Bool :=
  left.sameKey right && (sameOrEqual equal? left right).isNone

/-- What keeps a key from being looked for among the keys of a mapping. -/
def keyFault? (key : Value) (entries : List (Value × Value)) : Option KeyFault :=
  match key.unhashable? with
  | some fault => some fault
  | none => if entries.any (·.1.sameTooDeep key) then some .tooDeep else none

def sameType (left right : Value) : Bool :=
  left.typeName == right.typeName

end TolerantValidation.Value
