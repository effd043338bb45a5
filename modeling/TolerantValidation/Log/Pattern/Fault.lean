import TolerantValidation.Value.Display

/-!
Why arguments do not fit a pattern.
-/

namespace TolerantValidation.Log

inductive PatternFault where
  | tooFewArguments
  | unusedArguments
  | noMapping
  | missingName (name : String)
  | unclosedName
  | incomplete
  | widthTooBig
  | precisionTooBig
  | sizeType
  | sizeOutOfRange (machineType : String)
  | unknownDirective (letter : Char) (position : Nat)
  | wholeRequired (letter : Char) (typeName : String)
  | numberRequired (letter : Char) (typeName : String)
  | realRequired (typeName : String)
  | notANumberAsWhole
  | infinityAsWhole
  | characterRequired
  | noSuchCharacter
  | tooLargeForFloat
  | text (fault : TextFault)

namespace PatternFault

def kind : PatternFault → String
  | .tooFewArguments | .unusedArguments | .noMapping | .sizeType | .wholeRequired _ _
  | .numberRequired _ _ | .realRequired _ | .characterRequired => "TypeError"
  | .missingName _ => "KeyError"
  | .unclosedName | .incomplete | .widthTooBig | .precisionTooBig | .unknownDirective _ _
  | .notANumberAsWhole => "ValueError"
  | .sizeOutOfRange _ | .infinityAsWhole | .noSuchCharacter | .tooLargeForFloat => "OverflowError"
  | .text .tooDeep => "RecursionError"
  | .text .tooManyDigits => "ValueError"

def shownLetter (letter : Char) : Char :=
  if 31 ≤ letter.toNat ∧ letter.toNat ≤ 126 then letter else '?'

def message : PatternFault → String
  | .tooFewArguments => "not enough arguments for format string"
  | .unusedArguments => "not all arguments converted during string formatting"
  | .noMapping => "format requires a mapping"
  | .missingName name => String.ofList (Text.quoted name)
  | .unclosedName => "incomplete format key"
  | .incomplete => "incomplete format"
  | .widthTooBig => "width too big"
  | .precisionTooBig => "precision too big"
  | .sizeType => "* wants int"
  | .sizeOutOfRange machineType => "Python int too large to convert to C " ++ machineType
  | .unknownDirective letter position =>
    "unsupported format character '" ++ String.singleton (shownLetter letter) ++ "' (0x" ++
      String.ofList (Nat.toDigits 16 letter.toNat) ++ ") at index " ++ toString position
  | .wholeRequired letter typeName =>
    "%" ++ String.singleton letter ++ " format: an integer is required, not " ++ typeName
  | .numberRequired letter typeName =>
    "%" ++ String.singleton letter ++ " format: a real number is required, not " ++ typeName
  | .realRequired typeName => "must be real number, not " ++ typeName
  | .notANumberAsWhole => "cannot convert float NaN to integer"
  | .infinityAsWhole => "cannot convert float infinity to integer"
  | .characterRequired => "%c requires int or char"
  | .noSuchCharacter => "%c arg not in range(0x110000)"
  | .tooLargeForFloat => "int too large to convert to float"
  | .text _ => ""

end PatternFault
end TolerantValidation.Log
