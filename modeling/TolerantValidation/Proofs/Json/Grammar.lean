import TolerantValidation.Json.Reader

/-!
The grammar of JSON texts, production by production. A derivation keeps count of the levels that a
text nests and of the digits of its whole numbers, and of the constants of other dialects that stand
where a value should: a text without them is JSON.
-/

namespace TolerantValidation.Json

def IsBlank (characters : List Char) : Prop :=
  ∀ character ∈ characters, character ∈ [' ', '\t', '\n', '\r']

def IsDigit (character : Char) : Prop :=
  '0' ≤ character ∧ character ≤ '9'

def IsHexDigit (character : Char) : Prop :=
  IsDigit character ∨ ('a' ≤ character ∧ character ≤ 'f') ∨ ('A' ≤ character ∧ character ≤ 'F')

def AreDigits (characters : List Char) : Prop :=
  characters ≠ [] ∧ ∀ character ∈ characters, IsDigit character

inductive IsWhole : List Char → Prop
  | zero : IsWhole ['0']
  | digits {first rest} : '1' ≤ first → first ≤ '9' → (∀ digit ∈ rest, IsDigit digit) →
      IsWhole (first :: rest)

inductive IsFraction : List Char → Prop
  | absent : IsFraction []
  | point {digits} : AreDigits digits → IsFraction ('.' :: digits)

inductive IsExponent : List Char → Prop
  | absent : IsExponent []
  | mark {mark sign digits} : mark ∈ ['e', 'E'] → sign ∈ [[], ['+'], ['-']] → AreDigits digits →
      IsExponent (mark :: (sign ++ digits))

inductive IsMagnitude (digits : Nat) : List Char → Prop
  | mk {whole fraction exponent} : IsWhole whole → IsFraction fraction → IsExponent exponent →
      (fraction = [] → exponent = [] → whole.length ≤ digits) →
      IsMagnitude digits (whole ++ (fraction ++ exponent))

/-- What stands between the quotes of a string. -/
inductive IsStringBody : List Char → Prop
  | nil : IsStringBody []
  | plain {character rest} : ' ' ≤ character → character ≠ '"' → character ≠ '\\' →
      IsStringBody rest → IsStringBody (character :: rest)
  | short {character rest} : character ∈ ['"', '\\', '/', 'b', 'f', 'n', 'r', 't'] →
      IsStringBody rest → IsStringBody ('\\' :: character :: rest)
  | unit {a b c d rest} : IsHexDigit a → IsHexDigit b → IsHexDigit c → IsHexDigit d →
      IsStringBody rest → IsStringBody ('\\' :: 'u' :: a :: b :: c :: d :: rest)

inductive Symbol where
  | value
  /-- The items of an array, each with the blanks after it, with commas between. -/
  | items
  | members

/-- The symbol derives the characters, nesting at most `depth` levels, with whole numbers of at most
so many digits and with the given constants in value position. -/
inductive Derives (digits : Nat) : Symbol → Nat → List String → List Char → Prop
  | word {depth word} : word ∈ ["null", "true", "false"] →
      Derives digits .value depth [] word.toList
  | constant {depth name} : name ∈ ["NaN", "Infinity", "-Infinity"] →
      Derives digits .value depth [name] name.toList
  | positive {depth magnitude} : IsMagnitude digits magnitude →
      Derives digits .value depth [] magnitude
  | negative {depth magnitude} : IsMagnitude digits magnitude →
      Derives digits .value depth [] ('-' :: magnitude)
  | string {depth body} : IsStringBody body →
      Derives digits .value depth [] ('"' :: (body ++ ['"']))
  | emptyArray {depth blank} : IsBlank blank →
      Derives digits .value (depth + 1) [] ('[' :: (blank ++ [']']))
  | array {depth constants blank items} : IsBlank blank →
      Derives digits .items depth constants items →
      Derives digits .value (depth + 1) constants ('[' :: (blank ++ (items ++ [']'])))
  | emptyObject {depth blank} : IsBlank blank →
      Derives digits .value (depth + 1) [] ('{' :: (blank ++ ['}']))
  | object {depth constants blank members} : IsBlank blank →
      Derives digits .members depth constants members →
      Derives digits .value (depth + 1) constants ('{' :: (blank ++ (members ++ ['}'])))
  | lastItem {depth constants item blank} : Derives digits .value depth constants item →
      IsBlank blank → Derives digits .items depth constants (item ++ blank)
  | nextItem {depth constants more item blank next rest} :
      Derives digits .value depth constants item → IsBlank blank → IsBlank next →
      Derives digits .items depth more rest →
      Derives digits .items depth (constants ++ more) (item ++ (blank ++ ',' :: (next ++ rest)))
  | lastMember {depth constants key blank next value after} : IsStringBody key → IsBlank blank →
      IsBlank next → Derives digits .value depth constants value → IsBlank after →
      Derives digits .members depth constants
        ('"' :: (key ++ '"' :: (blank ++ ':' :: (next ++ (value ++ after)))))
  | nextMember {depth constants more key blank next value after again rest} : IsStringBody key →
      IsBlank blank → IsBlank next → Derives digits .value depth constants value → IsBlank after →
      IsBlank again → Derives digits .members depth more rest →
      Derives digits .members depth (constants ++ more)
        ('"' :: (key ++ '"' :: (blank ++ ':' ::
          (next ++ (value ++ (after ++ ',' :: (again ++ rest)))))))

def IsText (digits depth : Nat) (constants : List String) (text : String) : Prop :=
  ∃ before value after, IsBlank before ∧ Derives digits .value depth constants value ∧
    IsBlank after ∧ text.toList = before ++ (value ++ after)

end TolerantValidation.Json
