/-!
# Hexadecimal text

Two digits of either case spell a byte.  A text that spells no bytes is refused for the first of
three reasons that applies: a character beyond ASCII, an odd number of characters, a character
that is no digit.
-/

namespace EvmLocator.Bytecode

/-- Why a text spells no bytes. -/
inductive HexError where
  | notAscii
  | oddLength
  | notADigit
  deriving DecidableEq

/-- The error as a message shows it. -/
def HexError.message : HexError → String
  | notAscii => "string argument should contain only ASCII characters"
  | oddLength => "Odd-length string"
  | notADigit => "Non-hexadecimal digit found"

/-- The value of a hexadecimal digit of either case. -/
def digitValue? (c : Char) : Option Nat :=
  let n := c.toNat
  if 0x30 ≤ n ∧ n ≤ 0x39 then some (n - 0x30)
  else if 0x61 ≤ n ∧ n ≤ 0x66 then some (n - 0x57)
  else if 0x41 ≤ n ∧ n ≤ 0x46 then some (n - 0x37)
  else none

/-- The bytes that pairs of digits spell. -/
def pairs? : List Char → Option (List UInt8)
  | [] => some []
  | high :: low :: rest => do
    let h ← digitValue? high
    let l ← digitValue? low
    let bytes ← pairs? rest
    pure (UInt8.ofNat (16 * h + l) :: bytes)
  | [_] => none

/-- The bytes that a text spells. -/
def unhex (s : List Char) : Except HexError (List UInt8) :=
  if s.any fun c => 0x7f < c.toNat then .error .notAscii
  else if s.length % 2 = 1 then .error .oddLength
  else match pairs? s with
    | some bytes => .ok bytes
    | none => .error .notADigit

end EvmLocator.Bytecode
