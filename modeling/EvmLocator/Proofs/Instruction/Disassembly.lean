import EvmLocator.Instruction.Disassembly
import EvmLocator.Proofs.Bytecode.Hex
import EvmLocator.Proofs.Bytecode.Normal
import EvmLocator.Proofs.Bytecode.Trailer
import EvmLocator.Proofs.Instruction.Sweep
import Mathlib.Data.List.Chain
import Mathlib.Data.List.Induction

/-!
# A disassembly loses nothing

A code is disassembled in two stages.  Its normal form, without a trailer, must spell bytes behind
the mark, and this alone decides whether there is a disassembly.  Then the bytes are swept, and the
sweep keeps all of them: written back one after another, with the operand of each as a number in as
many bytes as its opcode takes, the instructions are the bytes again, up to a last push that the
bytecode cuts short.

`Lists` collects what a list of instructions says of its bytes.  That the operands may be kept as
numbers is `bigEndian_number`: a number of known width has one spelling, leading zeros included.

## Main results

* `Sweeps.exists_tail`: the instructions of a sweep, written back, begin its bytes.
* `exists_spells_iff`: the texts that spell bytes.
* `disassemble_lossless`: which codes are disassembled, and what the disassembly says of them.
-/

namespace EvmLocator

open Bytecode

namespace Instruction

/-! ## Writing instructions back -/

/-- A number in a given number of bytes, the most significant first. -/
def bigEndian : Nat → Nat → List UInt8
  | 0, _ => []
  | size + 1, n => bigEndian size (n / 256) ++ [UInt8.ofNat n]

/-- An instruction written back: its opcode, and the number of its operand in as many bytes as the
opcode takes. -/
def written (i : Instruction) : List UInt8 :=
  i.opcode :: bigEndian (Opcode.operandSize i.opcode) (number i.operand)

/-- Whether bytes hold no instruction: there are none, or they are a push that is cut short. -/
inductive CutShort : List UInt8 → Prop where
  | nothing : CutShort []
  | push {n : Nat} {opcode : UInt8} {operand : List UInt8} (one_le : 1 ≤ n) (le_32 : n ≤ 32)
      (pushes : opcode.toNat = 0x5f + n) (short : operand.length < n) :
      CutShort (opcode :: operand)

theorem number_append (bytes : List UInt8) (b : UInt8) :
    number (bytes ++ [b]) = 256 * number bytes + b.toNat := by
  simp [number]

/-- Bytes are spelled again by the number that they spell. -/
theorem bigEndian_number (bytes : List UInt8) : bigEndian bytes.length (number bytes) = bytes := by
  induction bytes using List.reverseRecOn with
  | nil => rfl
  | append_singleton bytes b ih =>
      have hb : b.toNat < 256 := b.toNat_lt
      have hdiv : (256 * number bytes + b.toNat) / 256 = number bytes := by omega
      have hmod : UInt8.ofNat (256 * number bytes + b.toNat) = b := by
        apply UInt8.toNat_inj.mp
        rw [UInt8.toNat_ofNat']
        omega
      rw [number_append, List.length_append, List.length_singleton, bigEndian, hdiv, hmod, ih]

/-- Only a push can be cut short. -/
theorem cutShort_of_lt {opcode : UInt8} {rest : List UInt8}
    (h : rest.length < Opcode.operandSize opcode) : CutShort (opcode :: rest) := by
  simp only [Opcode.operandSize] at h
  split at h
  · next hpush =>
      have hlast := hpush.2
      exact .push (n := opcode.toNat - 0x5f) (by omega) (by omega) (by omega) h
  · exact absurd h (Nat.not_lt_zero _)

namespace Sweeps

variable {pc : Nat} {bytes : List UInt8} {is : List Instruction}

theorem pc_of_head? (h : Sweeps pc bytes is) : ∀ i ∈ is.head?, i.pc = pc := by
  cases h with
  | nil => simp
  | cut => simp
  | step => simp

/-- An instruction stands where the one before it ends. -/
theorem isChain (h : Sweeps pc bytes is) :
    is.IsChain fun i j => j.pc = i.pc + 1 + Opcode.operandSize i.opcode := by
  induction h with
  | nil pc => exact List.IsChain.nil
  | cut pc short => exact List.IsChain.nil
  | @step pc opcode operand rest is full tail ih =>
      apply ih.cons
      intro j hj
      rw [tail.pc_of_head? j hj, full]

/-- The instructions of a sweep, written back, begin its bytes, and what is left over holds no
instruction. -/
theorem exists_tail (h : Sweeps pc bytes is) :
    ∃ tail, bytes = is.flatMap written ++ tail ∧ CutShort tail := by
  induction h with
  | nil pc => exact ⟨[], rfl, .nothing⟩
  | cut pc short => exact ⟨_, rfl, cutShort_of_lt short⟩
  | @step pc opcode operand rest is full tail ih =>
      obtain ⟨left, hrest, hleft⟩ := ih
      refine ⟨left, ?_, hleft⟩
      have hoperand : bigEndian (Opcode.operandSize opcode) (number operand) = operand := by
        rw [← full, bigEndian_number]
      rw [List.flatMap_cons, written, hoperand, List.cons_append, List.cons_append,
        List.append_assoc, ← hrest]

end Sweeps

/-! ## What a disassembly says -/

/-- Whether instructions list a bytecode: they follow one another from its first byte, written back
they are the bytecode up to a push that is cut short, and the index leads from the byte at which an
instruction stands to the number of instructions before that byte, and from no other byte. -/
structure Lists (is : List Instruction) (bytes : List UInt8) : Prop where
  first : ∀ i ∈ is.head?, i.pc = 0
  next : is.IsChain fun i j => j.pc = i.pc + 1 + Opcode.operandSize i.opcode
  restored : ∃ tail, bytes = is.flatMap written ++ tail ∧ CutShort tail
  indexed : ∀ pc n, Table.get? pc (indexByPc is) = some n ↔ ∃ i, is[n]? = some i ∧ i.pc = pc
  counted : ∀ pc n, Table.get? pc (indexByPc is) = some n → n = countBefore is pc

theorem lists_sweep (bytes : List UInt8) : Lists (sweep 0 bytes) bytes where
  first := (sweeps_sweep 0 bytes).pc_of_head?
  next := (sweeps_sweep 0 bytes).isChain
  restored := (sweeps_sweep 0 bytes).exists_tail
  indexed := fun pc n => get?_indexByPc_sweep
  counted := by
    intro pc n h
    obtain ⟨i, hi, rfl⟩ := get?_indexByPc_sweep.mp h
    exact (countBefore_of_getElem? (pairwise_sweep 0 bytes) hi).symm

end Instruction

open Instruction

/-! ## Texts that spell bytes -/

namespace Bytecode

/-- A hexadecimal digit that a code in normal form can hold is a small one. -/
theorem isHex_of_digitValue? {c : Char} {n : Nat} (h : digitValue? c = some n)
    (hsmall : Text.IsSmall c) : Piece.isHex c = true := by
  have hcapital : ¬ (0x41 ≤ c.toNat ∧ c.toNat ≤ 0x46) := by
    rintro ⟨hlow, hhigh⟩
    have hnone : ∀ n < 0x47, 0x41 ≤ n → ¬ Text.IsSmall (Char.ofNat n) := by decide
    have hnot := hnone c.toNat (by omega) hlow
    rw [Char.ofNat_toNat] at hnot
    exact hnot hsmall
  have hrange : (0x30 ≤ c.toNat ∧ c.toNat ≤ 0x39) ∨ (0x61 ≤ c.toNat ∧ c.toNat ≤ 0x66) := by
    simp only [digitValue?, if_neg hcapital] at h
    split at h
    · next hdigit => exact Or.inl hdigit
    · split at h
      · next hletter => exact Or.inr hletter
      · cases h
  simp only [Piece.isHex, Bool.or_eq_true, Bool.and_eq_true, decide_eq_true_eq]
  exact hrange

theorem exists_digitValue?_of_isHex {c : Char} (h : Piece.isHex c = true) :
    ∃ n, digitValue? c = some n := by
  simp only [Piece.isHex, Bool.or_eq_true, Bool.and_eq_true, decide_eq_true_eq] at h
  have hrange : (0x30 ≤ c.toNat ∧ c.toNat ≤ 0x39) ∨ (0x61 ≤ c.toNat ∧ c.toNat ≤ 0x66) := h
  simp only [digitValue?]
  split
  · exact ⟨_, rfl⟩
  · split
    · exact ⟨_, rfl⟩
    · omega

/-- A text of small characters spells bytes if it has digits only, and an even number of them. -/
theorem exists_spells_iff {s : List Char} (hsmall : ∀ c ∈ s, Text.IsSmall c) :
    (∃ bytes, Spells s bytes) ↔ IsHexText s ∧ s.length % 2 = 0 := by
  constructor
  · rintro ⟨bytes, h⟩
    refine ⟨?_, by have := h.length; omega⟩
    induction h with
    | nil => exact fun c hc => absurd hc List.not_mem_nil
    | cons upper lower tail ih =>
        intro c hc
        rcases List.mem_cons.mp hc with rfl | hc
        · exact isHex_of_digitValue? upper (hsmall _ List.mem_cons_self)
        rcases List.mem_cons.mp hc with rfl | hc
        · exact isHex_of_digitValue? lower (hsmall _ (List.mem_cons_of_mem _ List.mem_cons_self))
        · exact ih (fun d hd => hsmall d (List.mem_cons_of_mem _ (List.mem_cons_of_mem _ hd))) c hc
  · rintro ⟨hhex, heven⟩
    clear hsmall
    induction s using pairs?.induct with
    | case1 => exact ⟨[], .nil⟩
    | case2 high low rest ih =>
        obtain ⟨a, ha⟩ := exists_digitValue?_of_isHex (hhex high List.mem_cons_self)
        obtain ⟨b, hb⟩ :=
          exists_digitValue?_of_isHex (hhex low (List.mem_cons_of_mem _ List.mem_cons_self))
        obtain ⟨bytes, hbytes⟩ := ih
          (fun c hc => hhex c (List.mem_cons_of_mem _ (List.mem_cons_of_mem _ hc)))
          (by simp only [List.length_cons] at heven; omega)
        exact ⟨_, .cons ha hb hbytes⟩
    | case3 c => simp at heven

theorem mem_of_mem_stripMetadata {s : List Char} {c : Char} (h : c ∈ stripMetadata s) : c ∈ s := by
  rcases stripMetadata_cases s with ⟨t, -, hs⟩ | ⟨p, t, -, hs, hstrip⟩ | hs
  · rw [hs]
    exact List.mem_append_left t h
  · rw [hstrip, List.mem_append] at h
    rw [hs, List.append_assoc, List.mem_append, List.mem_append]
    exact h.imp_right Or.inr
  · rwa [hs] at h

end Bytecode

/-! ## The main result -/

theorem disassemble_eq_ok_iff {code : List Char} {is : List Instruction} :
    disassemble code = .ok is ↔
      ∃ bytes, Spells (body (stripMetadata (normalize code))) bytes ∧ is = sweep 0 bytes := by
  constructor
  · intro h
    cases hbytes : unhex (body (stripMetadata (normalize code))) with
    | error e =>
        simp only [disassemble, hbytes] at h
        cases h
    | ok bytes =>
        simp only [disassemble, hbytes] at h
        cases h
        exact ⟨bytes, unhex_eq_ok_iff.mp hbytes, rfl⟩
  · rintro ⟨bytes, hspells, rfl⟩
    simp only [disassemble, unhex_eq_ok_iff.mpr hspells]
    rfl

/-- Without its trailer, a code in normal form still begins with the mark. -/
theorem stripMetadata_normalize_eq (code : List Char) :
    stripMetadata (normalize code) = mark ++ body (stripMetadata (normalize code)) := by
  obtain ⟨rest, hrest⟩ := mark_prefix_stripMetadata (mark_prefix_normalize code)
  rw [← hrest]
  rfl

/-- **A disassembly loses nothing.**  A code is disassembled exactly if its normal form without the
trailer has, behind the mark, an even number of hexadecimal digits and nothing else, and then the
instructions list the bytes that the digits spell. -/
theorem disassemble_lossless (code : List Char) :
    ((∃ is, disassemble code = .ok is) ↔
      ∃ digits, stripMetadata (normalize code) = mark ++ digits ∧ IsHexText digits ∧
        digits.length % 2 = 0) ∧
    ∀ is, disassemble code = .ok is →
      ∃ digits bytes, stripMetadata (normalize code) = mark ++ digits ∧ Spells digits bytes ∧
        Lists is bytes := by
  have hsmall : ∀ c ∈ body (stripMetadata (normalize code)), Text.IsSmall c := fun c hc =>
    isSmall_of_mem_normalize c (mem_of_mem_stripMetadata (List.mem_of_mem_drop hc))
  constructor
  · constructor
    · rintro ⟨is, h⟩
      obtain ⟨bytes, hspells, -⟩ := disassemble_eq_ok_iff.mp h
      exact ⟨_, stripMetadata_normalize_eq code, (exists_spells_iff hsmall).mp ⟨bytes, hspells⟩⟩
    · rintro ⟨digits, hdigits, hhex, heven⟩
      have hbody : body (stripMetadata (normalize code)) = digits := by
        rw [hdigits]
        rfl
      rw [hbody] at hsmall
      obtain ⟨bytes, hspells⟩ := (exists_spells_iff hsmall).mpr ⟨hhex, heven⟩
      exact ⟨_, disassemble_eq_ok_iff.mpr ⟨bytes, by rwa [hbody], rfl⟩⟩
  · intro is h
    obtain ⟨bytes, hspells, rfl⟩ := disassemble_eq_ok_iff.mp h
    exact ⟨_, bytes, stripMetadata_normalize_eq code, hspells, lists_sweep bytes⟩

/-- Two pushes and a third one that is cut short, which is left over. -/
theorem disassemble_lossless_sample :
    disassemble "600160026101".toList = .ok [⟨0, 0x60, [1]⟩, ⟨2, 0x60, [2]⟩] ∧
      ∃ digits bytes, stripMetadata (normalize "600160026101".toList) = mark ++ digits ∧
        Spells digits bytes ∧ Lists [⟨0, 0x60, [1]⟩, ⟨2, 0x60, [2]⟩] bytes := by
  have h : disassemble "600160026101".toList = .ok [⟨0, 0x60, [1]⟩, ⟨2, 0x60, [2]⟩] := by
    decide +kernel
  exact ⟨h, (disassemble_lossless "600160026101".toList).2 _ h⟩

end EvmLocator
