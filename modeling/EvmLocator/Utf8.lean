/-!
# UTF-8

A byte sequence is decoded by a machine that takes one byte at a time.  A lead byte says how many
bytes follow and in which range the first of them lies; every later one lies in `80..BF`.  A byte
out of range ends the sequence before it and is then looked at as a lead byte, so an ill-formed
sequence is dropped in pieces that are as long as they can be: each piece begins like a
well-formed sequence and breaks off where it stops to be one.

The machine reports each such piece as `none`.  A lenient reader writes U+FFFD for it
(`decodeLossy`), a strict one refuses the text (`decode?`).
-/

namespace EvmLocator.Utf8

/-- Where the machine stands: between characters, or inside one whose bits so far are `value`,
with `more` bytes to follow after the next, which lies in `low..high`. -/
inductive State where
  | start
  | owing (more low high value : Nat)

/-- A lead byte: what it completes, and where the machine stands after it. -/
def first (byte : UInt8) : List (Option Char) × State :=
  let b := byte.toNat
  if b < 0x80 then ([some (Char.ofNat b)], .start)
  else if 0xc2 ≤ b ∧ b ≤ 0xdf then ([], .owing 0 0x80 0xbf (b - 0xc0))
  else if b = 0xe0 then ([], .owing 1 0xa0 0xbf 0)
  else if b = 0xed then ([], .owing 1 0x80 0x9f 0xd)
  else if 0xe1 ≤ b ∧ b ≤ 0xef then ([], .owing 1 0x80 0xbf (b - 0xe0))
  else if b = 0xf0 then ([], .owing 2 0x90 0xbf 0)
  else if 0xf1 ≤ b ∧ b ≤ 0xf3 then ([], .owing 2 0x80 0xbf (b - 0xf0))
  else if b = 0xf4 then ([], .owing 2 0x80 0x8f 4)
  else ([none], .start)

/-- One byte: what it completes, and where the machine stands after it. -/
def step (state : State) (byte : UInt8) : List (Option Char) × State :=
  match state with
  | .start => first byte
  | .owing more low high value =>
    if low ≤ byte.toNat ∧ byte.toNat ≤ high then
      let value := value * 0x40 + (byte.toNat - 0x80)
      match more with
      | 0 => ([some (Char.ofNat value)], .start)
      | more + 1 => ([], .owing more 0x80 0xbf value)
    else
      let (out, next) := first byte
      (none :: out, next)

/-- The characters of a byte sequence, with `none` for each ill-formed piece. -/
def run : State → List UInt8 → List (Option Char)
  | .start, [] => []
  | .owing .., [] => [none]
  | state, byte :: rest =>
    let (out, next) := step state byte
    out ++ run next rest

/-- The characters of a byte sequence, with U+FFFD for each ill-formed piece. -/
def decodeLossy (bytes : List UInt8) : List Char :=
  (run .start bytes).map fun c => c.getD '\ufffd'

/-- The characters of a well-formed byte sequence. -/
def decode? (bytes : List UInt8) : Option (List Char) :=
  (run .start bytes).mapM id

/-- The bytes of a text. -/
def encode (s : List Char) : List UInt8 :=
  s.flatMap String.utf8EncodeChar

theorem encode_append (s t : List Char) : encode (s ++ t) = encode s ++ encode t := by
  simp [encode]

end EvmLocator.Utf8
