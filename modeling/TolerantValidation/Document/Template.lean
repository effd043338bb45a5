import TolerantValidation.Text.Blank

/-!
Template fragments: the expressions, statements and comments that a template language adds to a
document. Removing them leaves a document that its own reader can read. The kinds of fragments are
removed one after the other, each kind from left to right.
-/

namespace TolerantValidation.Document.Template

def afterMark? (isAllowed : Char → Bool) (mark : List Char) : List Char → Option (List Char)
  | [] => if mark.isEmpty then some [] else none
  | character :: rest =>
    if mark.isPrefixOf (character :: rest) then some ((character :: rest).drop mark.length)
    else if isAllowed character then afterMark? isAllowed mark rest
    else none

theorem length_afterMark? {isAllowed : Char → Bool} {mark : List Char} :
    ∀ {characters rest : List Char}, afterMark? isAllowed mark characters = some rest →
      rest.length ≤ characters.length
  | [], rest, found => by
    simp only [afterMark?] at found
    split at found <;> simp_all
  | character :: more, rest, found => by
    simp only [afterMark?] at found
    split at found
    · rw [← Option.some.inj found, List.length_drop]
      exact Nat.sub_le ..
    · split at found
      · exact Nat.le_succ_of_le (length_afterMark? found)
      · simp at found

/-- What follows a fragment at the beginning of a text: an opening mark, at least one character, and
the next closing mark. All characters between the marks are allowed ones. -/
def afterEnclosed? (isAllowed : Char → Bool) (opening closing : List Char)
    (characters : List Char) : Option (List Char) :=
  if opening.isPrefixOf characters then
    match characters.drop opening.length with
    | first :: rest => if isAllowed first then afterMark? isAllowed closing rest else none
    | [] => none
  else none

theorem length_afterEnclosed? {isAllowed : Char → Bool}
    {opening closing characters rest : List Char}
    (found : afterEnclosed? isAllowed opening closing characters = some rest) :
    rest.length < characters.length := by
  unfold afterEnclosed? at found
  split at found
  · split at found
    · rename_i first more dropped
      split at found
      · have shorter := length_afterMark? found
        have sizes := congrArg List.length dropped
        simp only [List.length_drop, List.length_cons] at sizes
        omega
      · simp at found
    · simp at found
  · simp at found

structure Fragment where
  after? : List Char → Option (List Char)
  shorter : ∀ {characters rest}, after? characters = some rest → rest.length < characters.length

namespace Fragment

def enclosed (isAllowed : Char → Bool) (opening closing : String) : Fragment where
  after? := afterEnclosed? isAllowed opening.toList closing.toList
  shorter := length_afterEnclosed?

def anywhere (_ : Char) : Bool := true

def inLine (character : Char) : Bool := character != '\n'

def expressionMark : List Char := ['\x7b', '\x7b']

def afterExpressionKey? (characters : List Char) : Option (List Char) :=
  let unindented := characters.dropWhile Text.isBlank
  if unindented.length < characters.length then
    if expressionMark.isPrefixOf unindented then
      let line := (unindented.drop 2).takeWhile inLine
      match afterMark? anywhere ['\x7d', '\x7d', ':'] (line.drop 1) with
      | some (_ :: _) => some ((unindented.drop 2).dropWhile inLine)
      | _ => none
    else none
  else none

theorem length_dropWhile_le {Item : Type} (holds : Item → Bool) :
    ∀ items : List Item, (items.dropWhile holds).length ≤ items.length
  | [] => Nat.le_refl _
  | item :: rest => by
    rw [List.dropWhile_cons]
    split
    · exact Nat.le_succ_of_le (length_dropWhile_le holds rest)
    · exact Nat.le_refl _

theorem length_afterExpressionKey? {characters rest : List Char}
    (found : afterExpressionKey? characters = some rest) : rest.length < characters.length := by
  simp only [afterExpressionKey?] at found
  split at found
  · rename_i shorter
    split at found
    · split at found
      · have dropped := length_dropWhile_le inLine ((characters.dropWhile Text.isBlank).drop 2)
        rw [Option.some.inj found, List.length_drop] at dropped
        omega
      · simp at found
    · simp at found
  · simp at found

def expressionEntry : Fragment where
  after? := afterExpressionKey?
  shorter := length_afterExpressionKey?

def remove (fragment : Fragment) : List Char → List Char
  | [] => []
  | character :: rest =>
    match _ : fragment.after? (character :: rest) with
    | some after => remove fragment after
    | none => character :: remove fragment rest
termination_by characters => characters.length
decreasing_by
  · exact fragment.shorter ‹_›
  · simp

end Fragment

/-- The kinds of fragments, in the order of their removal. Expressions may span lines, statements
and comments may not, unless backquotes enclose what they hold. -/
def fragments : List Fragment :=
  [.expressionEntry,
   .enclosed Fragment.anywhere "\x7b\x7b`" "`\x7d\x7d",
   .enclosed Fragment.anywhere "\x7b\x7b" "\x7d\x7d",
   .enclosed Fragment.anywhere "\x7b%`" "`%\x7d",
   .enclosed Fragment.inLine "\x7b%" "%\x7d",
   .enclosed Fragment.inLine "\x7b#" "#\x7d"]

def removeAll (text : String) : String :=
  String.ofList
    (fragments.foldl (fun characters fragment => fragment.remove characters) text.toList)

end TolerantValidation.Document.Template
