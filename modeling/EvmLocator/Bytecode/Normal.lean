import EvmLocator.Text.LowerCase

/-!
# Normal form of a code

A code is the hexadecimal text of some bytecode.  Its normal form is in lower case and begins with
`0x`, so two spellings of a code have one normal form, and the code of nothing is `0x` alone.
-/

namespace EvmLocator.Bytecode

/-- The mark at the start of every code in normal form. -/
def mark : List Char := ['0', 'x']

/-- The normal form of a code. -/
def normalize (code : List Char) : List Char :=
  let code := Text.lower code
  if mark.isPrefixOf code then code else mark ++ code

/-- The part of a code in normal form after its mark. -/
def body (code : List Char) : List Char :=
  code.drop 2

theorem mark_prefix_normalize (code : List Char) : mark <+: normalize code := by
  simp only [normalize]
  split
  · next h => exact List.isPrefixOf_iff_prefix.mp h
  · exact List.prefix_append _ _

end EvmLocator.Bytecode
