import EvmLocator.Instruction.Opcode

/-!
# Instructions of a bytecode

A bytecode is read in one sweep: an opcode, the operand bytes it takes, the next opcode.  The
sweep ends with the bytecode, or before a push whose operand the bytecode cuts short; that push is
no instruction.  Source maps number instructions in this order, so the index of a program counter
is the number of instructions before it.

## Main results

* `sweep_nil`, `sweep_cons`: one step of the sweep.
-/

namespace EvmLocator

/-- An instruction, the byte at which it stands, and its operand bytes. -/
structure Instruction where
  pc : Nat
  opcode : UInt8
  operand : List UInt8
  deriving DecidableEq

namespace Instruction

/-- The number that operand bytes spell, the most significant first. -/
def number (bytes : List UInt8) : Nat :=
  bytes.foldl (fun n b => 256 * n + b.toNat) 0

/-- A natural number in hexadecimal, without leading zeros. -/
def hexText (n : Nat) : String :=
  "0x" ++ String.ofList (Nat.toDigits 16 n)

/-- The operand as a number in hexadecimal, of an instruction that takes one. -/
def operandText? (i : Instruction) : Option String :=
  if Opcode.operandSize i.opcode = 0 then none else some (hexText (number i.operand))

/-- The mnemonic, and the operand after it. -/
def text (i : Instruction) : String :=
  match i.operandText? with
  | some operand => Opcode.mnemonic i.opcode ++ " " ++ operand
  | none => Opcode.mnemonic i.opcode

/-- The byte after the instruction. -/
def next (i : Instruction) : Nat :=
  i.pc + 1 + i.operand.length

/-- The instructions of a bytecode whose first byte stands at `pc`. -/
def sweep (pc : Nat) : List UInt8 → List Instruction
  | [] => []
  | opcode :: rest =>
    let size := Opcode.operandSize opcode
    let operand := rest.take size
    if operand.length < size then []
    else { pc, opcode, operand } :: sweep (pc + 1 + size) (rest.drop size)
termination_by bytes => bytes.length
decreasing_by simp only [List.length_drop, List.length_cons]; omega

@[simp] theorem sweep_nil (pc : Nat) : sweep pc [] = [] := by
  rw [sweep]

theorem sweep_cons (pc : Nat) (opcode : UInt8) (rest : List UInt8) :
    sweep pc (opcode :: rest) =
      if rest.length < Opcode.operandSize opcode then []
      else { pc, opcode, operand := rest.take (Opcode.operandSize opcode) } ::
        sweep (pc + 1 + Opcode.operandSize opcode) (rest.drop (Opcode.operandSize opcode)) := by
  rw [sweep]
  by_cases h : rest.length < Opcode.operandSize opcode
  · rw [if_pos h, if_pos (by simp; omega)]
  · rw [if_neg h, if_neg (by simp; omega)]

/-- The position of each instruction, under its program counter. -/
def indexByPc (instructions : List Instruction) : List (Nat × Nat) :=
  (instructions.map pc).zipIdx

end Instruction

end EvmLocator
