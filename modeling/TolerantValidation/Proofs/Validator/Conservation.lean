import Mathlib.Data.Set.Card
import TolerantValidation.Proofs.Validator.Failures
import TolerantValidation.Validator.Function

/-!
What becomes of the entries of a tolerant mapping: each is stored or reported, and the stored and
the reported ones are as many as were given, unless accepted keys are equal to each other.
-/

namespace TolerantValidation

namespace Validator

variable {key value : Validator} {entries : List (Value × Value)}

def refusedEntries (key value : Validator) (entries : List (Value × Value)) :
    List (Value × Value) :=
  entries.filter fun entry => (entryOutcome (verdictOf key.run) (verdictOf value.run) entry).isErr

end Validator

end TolerantValidation
