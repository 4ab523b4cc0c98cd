import EvmLocator.Json.Basic
import EvmLocator.Text.IntegerLiteral

/-!
# Tokens of a JSON text

A text is read by a machine that takes one character at a time.  Between tokens it skips blanks
and emits punctuation; inside a string it collects codes; inside a word (a numeral or a name) it
collects characters until one comes that no word has, and then decides what the word is.  Taking
words whole loses nothing, because two values may never stand side by side.

A string is collected as codes, not characters: an escape can name half of a surrogate pair, and
two halves that meet are one character.  A half that stays alone is read as U+FFFD.
-/

namespace EvmLocator.Json

/-- Why a text is not read as a JSON document. -/
inductive ReadError where
  | malformed
  | numeralTooLong
  deriving DecidableEq

/-- A token of a JSON text. -/
inductive Token where
  | openArray
  | closeArray
  | openObject
  | closeObject
  | comma
  | colon
  | scalar (s : Scalar)
  deriving DecidableEq

/-! ## Numerals and names -/

/-- Whether a character is an ASCII digit. -/
def isDigit (c : Char) : Bool :=
  '0' ≤ c && c ≤ '9'

/-- The number that a run of ASCII digits denotes. -/
def digitsValue (ds : List Char) : Nat :=
  ds.foldl (fun n d => 10 * n + (d.toNat - 0x30)) 0

/-- The exponent part of a numeral: nothing, or a letter, perhaps a sign, and digits. -/
def exponent? : List Char → Option Int
  | [] => some 0
  | e :: rest =>
    if e = 'e' ∨ e = 'E' then
      let (negative, ds) := match rest with
        | '-' :: ds => (true, ds)
        | '+' :: ds => (false, ds)
        | ds => (false, ds)
      if ds.isEmpty || !ds.all isDigit then none
      else some (if negative then -(digitsValue ds : Int) else digitsValue ds)
    else none

/-- The fraction part of a numeral: nothing, or a point and digits; with what follows it. -/
def fraction? : List Char → Option (List Char × List Char)
  | '.' :: rest =>
    let ds := rest.takeWhile isDigit
    if ds.isEmpty then none else some (ds, rest.dropWhile isDigit)
  | rest => some ([], rest)

/-- The scalar that an unsigned numeral denotes. -/
def unsigned? (negative : Bool) (s : List Char) : Except ReadError Scalar :=
  let whole := s.takeWhile isDigit
  let rest := s.dropWhile isDigit
  if whole.isEmpty || (whole.head? == some '0' && 1 < whole.length) then .error .malformed
  else if rest.isEmpty then
    if Text.IntegerLiteral.digitLimit < whole.length then .error .numeralTooLong
    else .ok (.int (if negative then -(digitsValue whole : Int) else digitsValue whole))
  else match fraction? rest with
    | none => .error .malformed
    | some (fraction, tail) => match exponent? tail with
      | none => .error .malformed
      | some e =>
        .ok (.real (.ofDecimal negative (digitsValue (whole ++ fraction)) (e - fraction.length)))

/-- The scalar that a word denotes. -/
def word (s : List Char) : Except ReadError Scalar :=
  if s = "null".toList then .ok .null
  else if s = "true".toList then .ok (.bool true)
  else if s = "false".toList then .ok (.bool false)
  else if s = "NaN".toList then .ok (.real .nan)
  else if s = "Infinity".toList then .ok (.real (.infinite false))
  else if s = "-Infinity".toList then .ok (.real (.infinite true))
  else match s with
    | '-' :: rest => unsigned? true rest
    | rest => unsigned? false rest

/-- Whether a character can stand in a word. -/
def isWordChar (c : Char) : Bool :=
  c.isAlphanum || c == '+' || c == '-' || c == '.'

/-! ## Strings -/

/-- The characters that a list of codes spells. -/
def ofCodes : List Nat → List Char
  | [] => []
  | [n] => [if n.isValidChar then Char.ofNat n else '\ufffd']
  | high :: low :: rest =>
    if 0xd800 ≤ high ∧ high ≤ 0xdbff ∧ 0xdc00 ≤ low ∧ low ≤ 0xdfff then
      Char.ofNat (0x10000 + (high - 0xd800) * 0x400 + (low - 0xdc00)) :: ofCodes rest
    else
      (if high.isValidChar then Char.ofNat high else '\ufffd') :: ofCodes (low :: rest)

/-- The value of a hexadecimal digit of either case. -/
def hexValue? (c : Char) : Option Nat :=
  if isDigit c then some (c.toNat - 0x30)
  else if 'a' ≤ c ∧ c ≤ 'f' then some (c.toNat - 0x57)
  else if 'A' ≤ c ∧ c ≤ 'F' then some (c.toNat - 0x37)
  else none

/-- The character that a one-letter escape stands for. -/
def shortEscape? (c : Char) : Option Char :=
  match c with
  | '"' => some '"'
  | '\\' => some '\\'
  | '/' => some '/'
  | 'b' => some '\x08'
  | 'f' => some '\x0c'
  | 'n' => some '\n'
  | 'r' => some '\r'
  | 't' => some '\t'
  | _ => none

/-! ## The machine -/

/-- Where the machine stands.  Codes and characters are collected with the latest first. -/
inductive Lexing where
  | between
  | inWord (chars : List Char)
  | inString (codes : List Nat)
  | inEscape (codes : List Nat)
  | inUnicode (codes : List Nat) (digits : Nat) (value : Nat)

namespace Lexing

/-- One character between tokens. -/
def start (c : Char) : Except ReadError (List Token × Lexing) :=
  match c with
  | ' ' | '\t' | '\n' | '\r' => .ok ([], between)
  | '[' => .ok ([.openArray], between)
  | ']' => .ok ([.closeArray], between)
  | '\x7b' => .ok ([.openObject], between)
  | '\x7d' => .ok ([.closeObject], between)
  | ',' => .ok ([.comma], between)
  | ':' => .ok ([.colon], between)
  | '"' => .ok ([], inString [])
  | c => if isWordChar c then .ok ([], inWord [c]) else .error .malformed

/-- One character: the tokens that it completes, and where the machine stands after it. -/
def step : Lexing → Char → Except ReadError (List Token × Lexing)
  | between, c => start c
  | inWord chars, c =>
    if isWordChar c then .ok ([], inWord (c :: chars))
    else do
      let s ← word chars.reverse
      let (tokens, next) ← start c
      pure (.scalar s :: tokens, next)
  | inString codes, c =>
    if c = '"' then .ok ([.scalar (.str (String.ofList (ofCodes codes.reverse)))], between)
    else if c = '\\' then .ok ([], inEscape codes)
    else if c.toNat < 0x20 then .error .malformed
    else .ok ([], inString (c.toNat :: codes))
  | inEscape codes, c =>
    if c = 'u' then .ok ([], inUnicode codes 0 0)
    else match shortEscape? c with
      | some d => .ok ([], inString (d.toNat :: codes))
      | none => .error .malformed
  | inUnicode codes digits value, c => match hexValue? c with
    | some d =>
      if digits = 3 then .ok ([], inString ((16 * value + d) :: codes))
      else .ok ([], inUnicode codes (digits + 1) (16 * value + d))
    | none => .error .malformed

/-- The tokens that the end of the text completes. -/
def finish : Lexing → Except ReadError (List Token)
  | between => .ok []
  | inWord chars => do
    let s ← word chars.reverse
    pure [.scalar s]
  | _ => .error .malformed

/-- The tokens of a text, of which those in `done` are complete, the latest first. -/
def run (state : Lexing) (done : List Token) : List Char → Except ReadError (List Token)
  | [] => do
    let tokens ← state.finish
    pure (done.reverse ++ tokens)
  | c :: rest => do
    let (tokens, next) ← state.step c
    run next (tokens.reverse ++ done) rest

end Lexing

/-- The tokens of a text. -/
def tokens (s : List Char) : Except ReadError (List Token) :=
  Lexing.between.run [] s

end EvmLocator.Json
