import EvmLocator.Text.CaseTable
import EvmLocator.Text.PrintTable

/-!
# Quoted texts

The form in which a message shows a text between quotes.  Apostrophes quote it, unless it holds an
apostrophe and no double quote; the quote in use and the backslash are escaped, line ends and tabs
have escapes of their own, and a character without a visible form is written by its code point in
two, four or eight hexadecimal digits.
-/

namespace EvmLocator.Text

/-- The digit of a value below sixteen, in lower case. -/
def hexDigit (n : Nat) : Char :=
  if n < 10 then Char.ofNat (0x30 + n) else Char.ofNat (0x57 + n)

/-- The last `width` hexadecimal digits of a number. -/
def hexDigits : Nat → Nat → List Char
  | 0, _ => []
  | width + 1, n => hexDigits width (n / 16) ++ [hexDigit (n % 16)]

/-- Whether a quoted text shows the character as it is. -/
def isPrintable (c : Char) : Bool :=
  !inRanges unprintableRanges c.toNat

namespace Quoted

/-- The quote around a text. -/
def quoteOf (s : List Char) : Char :=
  if s.contains '\'' && !s.contains '"' then '"' else '\''

/-- The form of one character between the quotes `quote`. -/
def escape (quote c : Char) : List Char :=
  if c = quote || c = '\\' then ['\\', c]
  else if c = '\t' then ['\\', 't']
  else if c = '\n' then ['\\', 'n']
  else if c = '\r' then ['\\', 'r']
  else if isPrintable c then [c]
  else if c.toNat < 0x100 then '\\' :: 'x' :: hexDigits 2 c.toNat
  else if c.toNat < 0x10000 then '\\' :: 'u' :: hexDigits 4 c.toNat
  else '\\' :: 'U' :: hexDigits 8 c.toNat

/-- The quoted form of a text. -/
def encode (s : List Char) : List Char :=
  let quote := quoteOf s
  quote :: s.flatMap (escape quote) ++ [quote]

end Quoted

/-- The quoted form of a string. -/
def quoted (s : String) : String :=
  String.ofList (Quoted.encode s.toList)

end EvmLocator.Text
