import TolerantValidation.Value.Entries

/-!
Tables that are built line by line. A path of names leads into a table, through tables that are
created on the way, and into the last one of a list of tables. Some places are closed: what was
written in one piece stays as it is, and a table is declared only once.
-/

namespace TolerantValidation.Toml

abbrev Path := List String

abbrev Entries := List (Value × Value)

def update? (throughLists : Bool) (change : Entries → Option Entries) :
    Path → Entries → Option Entries
  | [], table => change table
  | name :: path, table => do
    let changed ←
      match Value.get? (.text name) table with
      | none => (update? throughLists change path []).map .mapping
      | some (.mapping inner) => (update? throughLists change path inner).map .mapping
      | some (.list items) =>
        match throughLists, items.getLast? with
        | true, some (.mapping inner) =>
          (update? throughLists change path inner).map fun inner =>
            .list (items.dropLast ++ [.mapping inner])
        | _, _ => none
      | some _ => none
    some (Value.put (.text name) changed table)

def insertNew? (name : String) (value : Value) (table : Entries) : Option Entries :=
  match Value.get? (.text name) table with
  | none => some (table ++ [(.text name, value)])
  | some _ => none

def addListed? (name : String) (table : Entries) : Option Entries :=
  match Value.get? (.text name) table with
  | none => some (table ++ [(.text name, .list [.mapping []])])
  | some (.list items) =>
    some (Value.put (.text name) (.list (items ++ [.mapping []])) table)
  | some _ => none

structure Closed where
  /-- What was written in one piece: neither it nor anything within may change. -/
  frozen : List Path := []
  declared : List Path := []

namespace Closed

def isFrozen (closed : Closed) (path : Path) : Bool :=
  closed.frozen.any (·.isPrefixOf path)

def isDeclared (closed : Closed) (path : Path) : Bool :=
  closed.declared.contains path

def freeze (closed : Closed) (path : Path) : Closed :=
  { closed with frozen := path :: closed.frozen }

def declare (closed : Closed) (path : Path) : Closed :=
  { closed with declared := path :: closed.declared }

def reopen (closed : Closed) (path : Path) : Closed :=
  { frozen := closed.frozen.filter fun other => !path.isPrefixOf other
    declared := closed.declared.filter fun other => !path.isPrefixOf other }

end Closed

def isFreezing (value : Value) : Bool :=
  value.isContainer

end TolerantValidation.Toml
