import TolerantValidation.Named
import TolerantValidation.Text.Blank

/-!
Environment files: lines that bind names to values. A value stands in quotes or reaches to the end
of its line, and may refer to variables. What is no binding is skipped to the end of its line.
-/

namespace TolerantValidation.EnvironmentFile

def unifyLineEnds : List Char → List Char
  | [] => []
  | '\r' :: '\n' :: rest => '\n' :: unifyLineEnds rest
  | '\r' :: rest => '\n' :: unifyLineEnds rest
  | character :: rest => character :: unifyLineEnds rest

def isBlankInLine (character : Char) : Bool :=
  Text.isBlank character && character != '\n'

def isNameCharacter (character : Char) : Bool :=
  !Text.isBlank character && character != '=' && character != '#'

def dropExport (characters : List Char) : List Char :=
  let word := "export".toList
  let rest := characters.drop word.length
  match word.isPrefixOf characters, rest with
  | true, blank :: _ => if isBlankInLine blank then rest.dropWhile isBlankInLine else characters
  | _, _ => characters

def readName (characters : List Char) : Except (List Char) (String × List Char) :=
  match characters with
  | '\'' :: rest =>
    match rest.takeWhile (· ≠ '\''), rest.dropWhile (· ≠ '\'') with
    | first :: name, _ :: after => .ok (String.ofList (first :: name), after)
    | _, _ => .error characters
  | _ =>
    match characters.takeWhile isNameCharacter with
    | [] => .error characters
    | name => .ok (String.ofList name, characters.dropWhile isNameCharacter)

/-- Splits a quoted value at its closing quote: the first quote without a backslash before it, or
else the last one. -/
def splitQuoted (quote : Char) : List Char → Option (List Char × List Char)
  | [] => none
  | '\\' :: character :: rest =>
    if character = quote then
      match splitQuoted quote rest with
      | some (value, after) => some ('\\' :: quote :: value, after)
      | none => some (['\\'], rest)
    else
      (splitQuoted quote (character :: rest)).map fun (value, after) => ('\\' :: value, after)
  | character :: rest =>
    if character = quote then some ([], rest)
    else (splitQuoted quote rest).map fun (value, after) => (character :: value, after)

def singleQuotedEscapes : List (Char × Char) := [('\\', '\\'), ('\'', '\'')]

def doubleQuotedEscapes : List (Char × Char) :=
  singleQuotedEscapes ++
    [('"', '"'), ('a', '\x07'), ('b', '\x08'), ('f', '\x0C'), ('n', '\n'), ('r', '\r'),
      ('t', '\t'), ('v', '\x0B')]

def unescape (escapes : List (Char × Char)) : List Char → List Char
  | [] => []
  | '\\' :: character :: rest =>
    match escapes.lookup character with
    | some meaning => meaning :: unescape escapes rest
    | none => '\\' :: unescape escapes (character :: rest)
  | character :: rest => character :: unescape escapes rest

def dropComment : List Char → List Char
  | [] => []
  | [character] => [character]
  | character :: '#' :: rest =>
    if Text.isBlank character then [] else character :: dropComment ('#' :: rest)
  | character :: rest => character :: dropComment rest

def trimEnd (characters : List Char) : List Char :=
  (characters.reverse.dropWhile Text.isBlank).reverse

def readValue (characters : List Char) : Except (List Char) (List Char × List Char) :=
  let quoted (quote : Char) (escapes : List (Char × Char)) (rest : List Char) :
      Except (List Char) (List Char × List Char) :=
    match splitQuoted quote rest with
    | some (value, after) => .ok (unescape escapes value, after)
    | none => .error characters
  match characters with
  | '\'' :: rest => quoted '\'' singleQuotedEscapes rest
  | '"' :: rest => quoted '"' doubleQuotedEscapes rest
  | _ =>
    .ok (trimEnd (dropComment (characters.takeWhile (· ≠ '\n'))),
      characters.dropWhile (· ≠ '\n'))

abbrev Binding := String × Option String

def readLineEnd (characters : List Char) : Except (List Char) (List Char) :=
  match characters.dropWhile isBlankInLine with
  | [] => .ok []
  | '\n' :: after => .ok after
  | '#' :: comment => .ok ((comment.dropWhile (· ≠ '\n')).drop 1)
  | _ => .error characters

def readBinding (characters : List Char) : Except (List Char) (Option Binding × List Char) := do
  let characters := dropExport characters
  match characters with
  | '#' :: _ => .ok (none, ← readLineEnd characters)
  | _ =>
    let (name, rest) ← readName characters
    match rest.dropWhile isBlankInLine with
    | '=' :: rest =>
      let (value, rest) ← readValue (rest.dropWhile isBlankInLine)
      .ok (some (name, some (String.ofList value)), ← readLineEnd rest)
    | rest => .ok (some (name, none), ← readLineEnd rest)

def readBindings : Nat → List Char → List Binding
  | 0, _ => []
  | fuel + 1, characters =>
    match characters.dropWhile Text.isBlank with
    | [] => []
    | unindented =>
      match readBinding unindented with
      | .ok (binding, rest) => binding.toList ++ readBindings fuel rest
      | .error rest => readBindings fuel ((rest.dropWhile (· ≠ '\n')).drop 1)

/-! ### References -/

def splitReference : List Char → Option (List Char × List Char × List Char)
  | '$' :: '\x7b' :: rest =>
    let isInName (character : Char) : Bool := character != '\x7d' && character != ':'
    let name := rest.takeWhile isInName
    match rest.dropWhile isInName with
    | '\x7d' :: after => some (name, [], after)
    | ':' :: '-' :: rest =>
      match rest.dropWhile (· ≠ '\x7d') with
      | _ :: after => some (name, rest.takeWhile (· ≠ '\x7d'), after)
      | [] => none
    | _ => none
  | _ => none

def resolveReferences (valueOf? : String → Option String) : Nat → List Char → List Char
  | 0, _ => []
  | _, [] => []
  | fuel + 1, character :: rest =>
    match splitReference (character :: rest) with
    | some (name, fallback, after) =>
      ((valueOf? (String.ofList name)).map String.toList).getD fallback ++
        resolveReferences valueOf? fuel after
    | none => character :: resolveReferences valueOf? fuel rest

/-- The variable of a name: bound above in the file, or else in the environment. A name that is
bound without a value stands for nothing. -/
def valueFor? (bound : Named (Option String)) (environment : Named String) (name : String) :
    Option String :=
  match bound.lookup name with
  | some value => some (value.getD "")
  | none => environment.lookup name

def read (environment : Named String) (text : String) : Named (Option String) :=
  let characters := unifyLineEnds text.toList
  (readBindings (characters.length + 1) characters).foldl (fun bound binding =>
    let resolve (value : String) : String :=
      String.ofList
        (resolveReferences (valueFor? bound environment) (value.length + 1) value.toList)
    Named.set binding.1 (binding.2.map resolve) bound) []

end TolerantValidation.EnvironmentFile
