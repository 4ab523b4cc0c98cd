import EvmLocator.Json.Integer

/-!
# Regions of a bytecode

A region is a run of bytes whose value is only known after deployment: an immutable, or the
address of a linked library.
-/

namespace EvmLocator

/-- The `length` bytes of a bytecode from the byte `start` on. -/
structure Region where
  start : Integer
  length : Integer
  deriving DecidableEq

namespace Region

/-- Where the hexadecimal text of the region begins in a code in normal form. -/
def position (r : Region) : Int :=
  2 + 2 * r.start.value

/-- How long the hexadecimal text of the region is. -/
def width (r : Region) : Int :=
  2 * r.length.value

end Region

end EvmLocator
