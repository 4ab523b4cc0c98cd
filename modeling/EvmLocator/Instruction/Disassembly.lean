import EvmLocator.Bytecode.Hex
import EvmLocator.Bytecode.Metadata
import EvmLocator.Bytecode.Normal
import EvmLocator.Instruction.Sweep

/-!
# Disassembly of a code

The instructions of a code are those of the bytes that its hexadecimal text spells, without the
mark at its start and the metadata trailer at its end.
-/

namespace EvmLocator

open Bytecode in
/-- The instructions of a code. -/
def disassemble (code : List Char) : Except HexError (List Instruction) := do
  let bytes ← unhex (body (stripMetadata (normalize code)))
  pure (Instruction.sweep 0 bytes)

end EvmLocator
