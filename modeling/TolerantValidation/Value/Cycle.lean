import TolerantValidation.Value.Text

/-!
Circular values: a container that holds itself, directly or through what it holds. Each branch is
followed with the containers around it only, so a container that is shared without a cycle is not
circular.
-/

namespace TolerantValidation.Value

def firstAnswer (follow : Held → Option Bool) : List Held → Option Bool
  | [] => some false
  | held :: rest =>
    match follow held with
    | some false => firstAnswer follow rest
    | answer => answer

/-- Whether following the value leads back to one of the containers around it; `none` when it leads
too deep. Branches are followed in order up to the first that leads back. -/
def circularWithin : Nat → List Nat → Value → Option Bool
  | 0, _, value => if value.isContainer then none else some false
  | fuel + 1, around, value =>
    if value.isContainer then
      if isAround around value then some true
      else
        firstAnswer (fun held => circularWithin fuel (held.trail value around) held.value)
          value.held
    else some false

def circularLimit : Nat := 330

def isCircular? (value : Value) : Option Bool :=
  circularWithin circularLimit [] value

end TolerantValidation.Value
