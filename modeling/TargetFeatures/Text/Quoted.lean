import TargetFeatures.Text.Printable
import TargetFeatures.Text.Surrogate

/-!
# Quoted text

Messages show a text from a catalog between quotes. Apostrophes are used unless the text has an
apostrophe and no quotation mark; the quote in use and the backslash are escaped, and a character
that is not printable is written by its code point, as is half of a surrogate pair.
-/

namespace TargetFeatures.Text

/-- Digits of a code point in lower case hexadecimal, padded with zeros to a width. -/
def hexadecimal (width code : Nat) : String :=
  let digits := Nat.toDigits 16 code
  String.ofList (List.replicate (width - digits.length) '0' ++ digits)

/-- The quote that encloses a text. -/
def quoteFor (characters : List Char) : Char :=
  if characters.contains '\'' && !characters.contains '"' then '"' else '\''

/-- A code point as it is written for a character that is not printable. -/
def codeEscape (code : Nat) : String :=
  if code < 0x100 then "\\x" ++ hexadecimal 2 code
  else if code < 0x10000 then "\\u" ++ hexadecimal 4 code
  else "\\U" ++ hexadecimal 8 code

/-- One character as it stands between the given quotes. -/
def quoteChar (quote character : Char) : String :=
  if character = quote || character = '\\' then String.ofList ['\\', character]
  else if character = '\n' then "\\n"
  else if character = '\t' then "\\t"
  else if character = '\r' then "\\r"
  else if isPrintable character then character.toString
  else codeEscape ((half? character).getD character.toNat)

/-- A text between quotes. -/
def quoted (text : String) : String :=
  let quote := quoteFor text.toList
  quote.toString ++ String.join (text.toList.map (quoteChar quote)) ++ quote.toString

end TargetFeatures.Text
