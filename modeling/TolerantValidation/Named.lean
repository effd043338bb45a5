/-!
Named items in order. A name that is set again keeps its place.
-/

namespace TolerantValidation

abbrev Named (Item : Type) := List (String × Item)

namespace Named

variable {Item : Type}

/-- Sets a name; a name that is there already keeps its place. -/
def set (name : String) (item : Item) : Named Item → Named Item
  | [] => [(name, item)]
  | field :: rest =>
    if field.1 = name then (name, item) :: rest else field :: set name item rest

def merge (items more : Named Item) : Named Item :=
  more.foldl (fun merged field => set field.1 field.2 merged) items

def add (name : String) (item : Item) (items : Named Item) : Named Item :=
  match items.lookup name with
  | none => items ++ [(name, item)]
  | some _ => items

def without (names : List String) (items : Named Item) : Named Item :=
  items.filter fun field => !names.contains field.1

end Named
end TolerantValidation
