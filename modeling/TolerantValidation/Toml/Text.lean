import TolerantValidation.Document.Fault
import TolerantValidation.Text.Digit
import TolerantValidation.Number.Reading

/-!
The text of TOML: blanks, comments, strings and the names of keys. Control characters are refused
everywhere but for tabs and, where a text may span lines, line ends.
-/

namespace TolerantValidation.Toml

def malformed {Read : Type} : Except DocumentFault Read :=
  .error (.malformed .toml)

def isSpace (character : Char) : Bool :=
  character == ' ' || character == '\t'

def skipSpaces (characters : List Char) : List Char :=
  characters.dropWhile isSpace

def isRefused (character : Char) : Bool :=
  (character < ' ' && character != '\t') || character == '\x7F'

def withLineFeeds : List Char → List Char
  | [] => []
  | '\r' :: '\n' :: rest => '\n' :: withLineFeeds rest
  | character :: rest => character :: withLineFeeds rest

def skipComment (characters : List Char) : Except DocumentFault (List Char) :=
  match characters with
  | '#' :: rest =>
    if (rest.takeWhile (· ≠ '\n')).any isRefused then malformed
    else .ok (rest.dropWhile (· ≠ '\n'))
  | _ => .ok characters

def skipBetween (inComment : Bool) : List Char → Except DocumentFault (List Char)
  | [] => .ok []
  | character :: rest =>
    if inComment then
      if character = '\n' then skipBetween false rest
      else if isRefused character then malformed
      else skipBetween true rest
    else if isSpace character || character == '\n' then skipBetween false rest
    else if character = '#' then skipBetween true rest
    else .ok (character :: rest)

def isNameCharacter (character : Char) : Bool :=
  ('0' ≤ character && character ≤ '9') || ('A' ≤ character && character ≤ 'Z') ||
    ('a' ≤ character && character ≤ 'z') || character == '-' || character == '_'

/-! ### Strings -/

def shortEscape? : Char → Option Char
  | 'b' => some '\x08'
  | 't' => some '\t'
  | 'n' => some '\n'
  | 'f' => some '\x0C'
  | 'r' => some '\r'
  | '"' => some '"'
  | '\\' => some '\\'
  | _ => none

def codeCharacter? (digits : List Char) : Option Char :=
  if digits.all Text.isHexDigit then
    let code := Number.ofHexDigits digits
    if code.isValidChar then some (Char.ofNat code) else none
  else none

def readLine : List Char → List Char → Except DocumentFault (List Char × List Char)
  | _, [] => malformed
  | done, '"' :: rest => .ok (done.reverse, rest)
  | done, '\\' :: 'u' :: a :: b :: c :: d :: rest =>
    match codeCharacter? [a, b, c, d] with
    | some character => readLine (character :: done) rest
    | none => malformed
  | done, '\\' :: 'U' :: a :: b :: c :: d :: e :: f :: g :: h :: rest =>
    match codeCharacter? [a, b, c, d, e, f, g, h] with
    | some character => readLine (character :: done) rest
    | none => malformed
  | done, '\\' :: escape :: rest =>
    match shortEscape? escape with
    | some character => readLine (character :: done) rest
    | none => malformed
  | done, character :: rest =>
    if isRefused character || character == '\\' then malformed
    else readLine (character :: done) rest

inductive Trimming where
  | none
  | toLineEnd
  | toText

def readLines : Trimming → List Char → List Char → Except DocumentFault (List Char × List Char)
  | _, _, [] => malformed
  | .toLineEnd, done, character :: rest =>
    if character = '\n' then readLines .toText done rest
    else if isSpace character then readLines .toLineEnd done rest
    else malformed
  | _, done, '"' :: '"' :: '"' :: rest => .ok (done.reverse, rest)
  | _, done, '\\' :: 'u' :: a :: b :: c :: d :: rest =>
    match codeCharacter? [a, b, c, d] with
    | some character => readLines .none (character :: done) rest
    | none => malformed
  | _, done, '\\' :: 'U' :: a :: b :: c :: d :: e :: f :: g :: h :: rest =>
    match codeCharacter? [a, b, c, d, e, f, g, h] with
    | some character => readLines .none (character :: done) rest
    | none => malformed
  | _, done, '\\' :: escape :: rest =>
    if escape = '\n' then readLines .toText done rest
    else if isSpace escape then readLines .toLineEnd done rest
    else
      match shortEscape? escape with
      | some character => readLines .none (character :: done) rest
      | none => malformed
  | trimming, done, character :: rest =>
    match trimming with
    | .toText =>
      if isSpace character || character == '\n' then readLines .toText done rest
      else if isRefused character || character == '\\' then malformed
      else readLines .none (character :: done) rest
    | _ =>
      if (isRefused character && character != '\n') || character == '\\' then malformed
      else readLines .none (character :: done) rest

def readLiteralLine (characters : List Char) : Except DocumentFault (List Char × List Char) :=
  let literal := characters.takeWhile (· ≠ '\'')
  match characters.dropWhile (· ≠ '\'') with
  | _ :: rest => if literal.any isRefused then malformed else .ok (literal, rest)
  | [] => malformed

def readLiteralLines : List Char → List Char → Except DocumentFault (List Char × List Char)
  | _, [] => malformed
  | done, '\'' :: '\'' :: '\'' :: rest => .ok (done.reverse, rest)
  | done, character :: rest =>
    if isRefused character && character != '\n' then malformed
    else readLiteralLines (character :: done) rest

/-- Up to two further quotes at the end of a string of several lines belong to it. -/
def withLastQuotes (quote : Char) (read : List Char × List Char) : List Char × List Char :=
  let quotes := (read.2.take 2).takeWhile (· == quote)
  (read.1 ++ quotes, read.2.drop quotes.length)

def dropFirstBreak : List Char → List Char
  | '\n' :: rest => rest
  | characters => characters

def readString (characters : List Char) : Except DocumentFault (String × List Char) :=
  let read :=
    match characters with
    | '"' :: '"' :: '"' :: rest =>
      (readLines .none [] (dropFirstBreak rest)).map (withLastQuotes '"')
    | '"' :: rest => readLine [] rest
    | '\'' :: '\'' :: '\'' :: rest =>
      (readLiteralLines [] (dropFirstBreak rest)).map (withLastQuotes '\'')
    | '\'' :: rest => readLiteralLine rest
    | _ => malformed
  read.map fun (text, rest) => (String.ofList text, rest)

def readKeyPart (characters : List Char) : Except DocumentFault (String × List Char) :=
  match characters with
  | '"' :: rest => (readLine [] rest).map fun (text, rest) => (String.ofList text, rest)
  | '\'' :: rest => (readLiteralLine rest).map fun (text, rest) => (String.ofList text, rest)
  | _ =>
    let name := characters.takeWhile isNameCharacter
    if name.isEmpty then malformed
    else .ok (String.ofList name, characters.dropWhile isNameCharacter)

def readKey : Nat → List Char → Except DocumentFault (List String × List Char)
  | 0, _ => malformed
  | fuel + 1, characters => do
    let (part, rest) ← readKeyPart characters
    match skipSpaces rest with
    | '.' :: rest => do
      let (parts, rest) ← readKey fuel (skipSpaces rest)
      .ok (part :: parts, rest)
    | rest => .ok ([part], rest)

end TolerantValidation.Toml
