import TolerantValidation.Value.Equality

/-!
Entries of a mapping in order of insertion. Equal keys are one key: the first one stays, in its
place, and the last value wins.
-/

namespace TolerantValidation.Value

def put (key value : Value) : List (Value × Value) → List (Value × Value)
  | [] => [(key, value)]
  | entry :: rest =>
    if entry.1.sameKey key then (entry.1, value) :: rest else entry :: put key value rest

def get? (key : Value) (entries : List (Value × Value)) : Option Value :=
  (entries.find? (·.1.sameKey key)).map Prod.snd

def ofPairs (pairs : List (Value × Value)) : List (Value × Value) :=
  pairs.foldl (fun entries pair => put pair.1 pair.2 entries) []

def distinct (items : List Value) : List Value :=
  items.foldl (fun kept item => if kept.any (·.sameKey item) then kept else kept ++ [item]) []

def ofFields (fields : List (String × Value)) : Value :=
  .mapping (fields.map fun field => (.text field.1, field.2))

end TolerantValidation.Value
