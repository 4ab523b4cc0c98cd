import EvmLocator.Text.DigitTable
import EvmLocator.Unfit

/-!
# Integer literals

The grammar of an integer written in decimal: blanks, at most one sign, decimal digits of any
script with single underscores allowed between them, blanks.  Leading zeros are allowed; more than
`digitLimit` digits are not, whatever their value.

Reading goes in three steps, each with its own failure: the blanks are cut off, the digits are
collected (`digits?`), and one fold gives their value.

Writing has the same limit: an integer of more digits has no text, in a message as in a document.
Only the numbers of things that are at hand (the entries of a list, the steps of a trace) are
written without asking, as no list has so many items.
-/

namespace EvmLocator.Text

/-- The blanks that may surround an integer literal. -/
def isBlank (c : Char) : Bool :=
  let n := c.toNat
  (0x09 ≤ n && n ≤ 0x0d) || n == 0x20 || n == 0x85 || n == 0xa0 || n == 0x1680 ||
    (0x2000 ≤ n && n ≤ 0x200a) || n == 0x2028 || n == 0x2029 || n == 0x202f || n == 0x205f ||
    n == 0x3000

/-- A text without the blanks at both its ends. -/
def trimBlanks (s : List Char) : List Char :=
  (((s.dropWhile isBlank).reverse).dropWhile isBlank).reverse

namespace IntegerLiteral

/-- The greatest number of digits a literal may have. -/
def digitLimit : Nat := 4300

/-- The digits of a non-empty run in which single underscores may separate digits. -/
def digits? : List Char → Option (List Nat)
  | [] => none
  | [c] => (decimalDigit? c).map fun d => [d]
  | c :: '_' :: rest => do
    let d ← decimalDigit? c
    let ds ← digits? rest
    pure (d :: ds)
  | c :: rest => do
    let d ← decimalDigit? c
    let ds ← digits? rest
    pure (d :: ds)

/-- The number that a list of decimal digits denotes. -/
def value (ds : List Nat) : Nat :=
  ds.foldl (fun n d => 10 * n + d) 0

/-- The number that an unsigned run of digits denotes. -/
def magnitude? (s : List Char) : Option Nat := do
  let ds ← digits? s
  if ds.length ≤ digitLimit then some (value ds) else none

/-- The number that a literal without blanks around it denotes. -/
def signed? : List Char → Option Int
  | '-' :: rest => (magnitude? rest).map fun n => -(n : Int)
  | '+' :: rest => (magnitude? rest).map fun n => (n : Int)
  | rest => (magnitude? rest).map fun n => (n : Int)

/-- The integer that a text denotes, when it is an integer literal. -/
def parse? (s : List Char) : Option Int :=
  signed? (trimBlanks s)

/-- Whether an integer has no more digits than a literal may have. -/
def Fits (n : Int) : Prop :=
  (Nat.toDigits 10 n.natAbs).length ≤ digitLimit

instance (n : Int) : Decidable (Fits n) :=
  inferInstanceAs (Decidable (_ ≤ _))

/-- The text of an integer. -/
def write (n : Int) : Except Unfit String :=
  if Fits n then .ok (toString n) else .error .numeralTooLong

end IntegerLiteral

end EvmLocator.Text
