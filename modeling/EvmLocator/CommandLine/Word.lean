import EvmLocator.CommandLine.Flag
import EvmLocator.Text.DigitTable

/-!
# Words of the command line

A word that begins with a dash is an option if it can be read as one.  It may be a name of an
option, alone or with a value after an equals sign; the beginning of exactly one long name; or a
short name with more characters after it, which are its value or further short names.  A word that
looks like a negative number, or holds a space, is no option unless one of these readings applies;
a lone dash never is.

Two dashes alone end the options: every word after them stands for itself.
-/

namespace EvmLocator.CommandLine

/-- What is attached to the name of an option in the same word. -/
inductive Attached where
  | nothing
  /-- A text after an equals sign. -/
  | value (text : List Char)
  /-- Characters directly after a short name. -/
  | tail (text : List Char)

/-- A word of the command line. -/
inductive Word where
  | plain (text : String)
  | option (f : Flag) (name : List Char) (attached : Attached)
  | ambiguous (text : String) (candidates : List String)
  | unknown (text : String)

namespace Word

/-- A word cut at its first equals sign. -/
def cut (s : List Char) : List Char × Attached :=
  match s.dropWhile (· != '=') with
  | [] => (s, .nothing)
  | _ :: value => (s.takeWhile (· != '='), .value value)

/-- The options whose long names begin with a text. -/
def completions (start : List Char) : List (String × Flag) :=
  Flag.table.filter fun entry => start.isPrefixOf entry.1.toList

/-- Whether a text is a run of decimal digits. -/
def isDigits (s : List Char) : Bool :=
  !s.isEmpty && s.all fun c => (Text.decimalDigit? c).isSome

/-- Whether a word looks like a negative number: digits, or digits around a point of which the
first may be absent.  A line end after the number does not count. -/
def looksNegative (s : List Char) : Bool :=
  match if s.getLast? = some '\n' then s.dropLast else s with
  | '-' :: rest =>
    isDigits rest ||
      match rest.dropWhile fun c => (Text.decimalDigit? c).isSome with
      | '.' :: fraction => isDigits fraction
      | _ => false
  | _ => false

/-- A word that is not the exact name of an option, read as the beginning of one or as a short
name with a tail. -/
def abbreviated (s : List Char) : List (String × Flag × Attached) :=
  match s with
  | '-' :: '-' :: _ =>
    let (start, attached) := cut s
    (completions start).map fun entry => (entry.1, entry.2, attached)
  | '-' :: c :: rest =>
    match Flag.named? (String.ofList ['-', c]) with
    | some f => [(String.ofList ['-', c], f, .tail rest)]
    | none => []
  | _ => []

/-- Reads a word that begins with a dash and has more characters. -/
def readDashed (text : String) : Word :=
  let s := text.toList
  let (name, attached) := cut s
  match Flag.named? text, attached, Flag.named? (String.ofList name) with
  | some f, _, _ => option f s .nothing
  | none, .value v, some f => option f name (.value v)
  | _, _, _ => match abbreviated s with
    | [(full, f, attached)] => option f full.toList attached
    | [] => if looksNegative s || s.contains ' ' then plain text else unknown text
    | several => ambiguous text (several.map Prod.fst)

/-- Reads a word before the end of the options. -/
def read (text : String) : Word :=
  match text.toList with
  | '-' :: _ :: _ => readDashed text
  | _ => plain text

end Word

/-- The words of a command line: those before the end of the options, and those after it if there
is one. -/
structure Words where
  before : List Word
  after : Option (List String)

/-- Reads the words of a command line. -/
def Words.read : List String → Words
  | [] => { before := [], after := none }
  | "--" :: rest => { before := [], after := some rest }
  | text :: rest =>
    let others := read rest
    { others with before := Word.read text :: others.before }

end EvmLocator.CommandLine
