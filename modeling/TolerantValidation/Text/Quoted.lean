import TolerantValidation.Text.Printable
import TolerantValidation.Text.Units

/-!
Quoted text: how a text or a string of octets is shown inside the text of a value. Single quotes
enclose it, or double quotes where it holds single ones and no double ones; a backslash, the
enclosing quote and what is not printable are escaped.
-/

namespace TolerantValidation.Text

def hexPadded (width number : Nat) : List Char :=
  let digits := Nat.toDigits 16 number
  List.replicate (width - digits.length) '0' ++ digits

def enclosingQuote (hasSingle hasDouble : Bool) : Char :=
  if hasSingle && !hasDouble then '"' else '\''

def codeEscape (code : Nat) : List Char :=
  if code < 0x100 then '\\' :: 'x' :: hexPadded 2 code
  else if code < 0x10000 then '\\' :: 'u' :: hexPadded 4 code
  else '\\' :: 'U' :: hexPadded 8 code

def quotedCharacter (quote character : Char) : List Char :=
  if character = quote ∨ character = '\\' then ['\\', character]
  else if character = '\n' then ['\\', 'n']
  else if character = '\r' then ['\\', 'r']
  else if character = '\t' then ['\\', 't']
  else if isPrintable character then [character]
  else codeEscape (codePoint character)

def quoted (text : String) : List Char :=
  let characters := text.toList
  let quote := enclosingQuote (characters.contains '\'') (characters.contains '"')
  quote :: characters.flatMap (quotedCharacter quote) ++ [quote]

def quotedOctet (quote : Char) (octet : UInt8) : List Char :=
  let character := Char.ofNat octet.toNat
  if octet.toNat < 0x80 then quotedCharacter quote character
  else codeEscape octet.toNat

def quotedOctets (octets : List UInt8) : List Char :=
  let quote := enclosingQuote (octets.contains 0x27) (octets.contains 0x22)
  'b' :: quote :: octets.flatMap (quotedOctet quote) ++ [quote]

end TolerantValidation.Text
