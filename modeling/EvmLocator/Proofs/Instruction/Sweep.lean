import EvmLocator.Instruction.Sweep
import EvmLocator.Proofs.Table

/-!
# The sweep of a bytecode

`Sweeps` says what a sweep reads: opcodes with their operands, one after another, up to the end of
the bytecode or to a push that is cut short.  A sweep looks at the opcodes only, to know how far
the next one is, so two bytecodes that agree at the opcodes of one of them have the same
boundaries as far as both sweeps go.

## Main results

* `pairwise_sweep`: program counters increase.
* `mem_indexByPc_iff_countBefore`: the index of a program counter counts what stands before it.
* `get?_indexByPc_sweep`: the index leads to the place of the instruction.
* `prefix_or_prefix_of_agrees`: where bytecodes agree at opcodes, one sweep begins the other.
* `index_eq_of_begins`: a program counter has the same index in a sweep and in its beginning.
-/

namespace EvmLocator.Instruction

/-- The instructions that are read from a bytecode whose first byte stands at a program counter. -/
inductive Sweeps : Nat → List UInt8 → List Instruction → Prop where
  | nil (pc : Nat) : Sweeps pc [] []
  | cut (pc : Nat) {opcode : UInt8} {rest : List UInt8}
      (short : rest.length < Opcode.operandSize opcode) : Sweeps pc (opcode :: rest) []
  | step (pc : Nat) {opcode : UInt8} {operand rest : List UInt8} {is : List Instruction}
      (full : operand.length = Opcode.operandSize opcode)
      (tail : Sweeps (pc + 1 + operand.length) rest is) :
      Sweeps pc (opcode :: (operand ++ rest)) ({ pc, opcode, operand } :: is)

theorem sweeps_sweep (pc : Nat) (bytes : List UInt8) : Sweeps pc bytes (sweep pc bytes) := by
  induction pc, bytes using sweep.induct with
  | case1 pc =>
      rw [sweep_nil]
      exact .nil pc
  | case2 pc opcode rest size operand hcut =>
      have hshort : rest.length < Opcode.operandSize opcode := by
        simp only [operand, size, List.length_take] at hcut
        omega
      rw [sweep_cons, if_pos hshort]
      exact .cut pc hshort
  | case3 pc opcode rest size operand hfull ih =>
      have hlen : (rest.take (Opcode.operandSize opcode)).length = Opcode.operandSize opcode := by
        simp only [operand, size, List.length_take] at hfull
        rw [List.length_take]
        omega
      have hlong : ¬ rest.length < Opcode.operandSize opcode := by
        rw [List.length_take] at hlen
        omega
      rw [sweep_cons, if_neg hlong]
      have hstep := Sweeps.step pc hlen (by rw [hlen]; exact ih)
      rwa [List.take_append_drop] at hstep

/-! ## Program counters -/

/-- An instruction stands at its program counter. -/
theorem Sweeps.opcode_of_mem {pc : Nat} {bytes : List UInt8} {is : List Instruction}
    (h : Sweeps pc bytes is) :
    ∀ i ∈ is, ∃ k, i.pc = pc + k ∧ bytes[k]? = some i.opcode := by
  induction h with
  | nil pc => simp
  | cut pc short => simp
  | @step pc opcode operand rest is full tail ih =>
      intro i hi
      rcases List.mem_cons.mp hi with rfl | hi
      · exact ⟨0, rfl, rfl⟩
      · obtain ⟨k, hpc, hk⟩ := ih i hi
        refine ⟨operand.length + k + 1, by omega, ?_⟩
        rw [List.getElem?_cons_succ, List.getElem?_append_right (Nat.le_add_right _ _),
          Nat.add_sub_cancel_left]
        exact hk

theorem Sweeps.pairwise {pc : Nat} {bytes : List UInt8} {is : List Instruction}
    (h : Sweeps pc bytes is) : is.Pairwise fun i j => i.pc < j.pc := by
  induction h with
  | nil pc => exact List.Pairwise.nil
  | cut pc short => exact List.Pairwise.nil
  | @step pc opcode operand rest is full tail ih =>
      refine List.Pairwise.cons (fun i hi => ?_) ih
      obtain ⟨k, hpc, -⟩ := tail.opcode_of_mem i hi
      show pc < i.pc
      omega

/-- Program counters increase along a sweep. -/
theorem pairwise_sweep (pc : Nat) (bytes : List UInt8) :
    (sweep pc bytes).Pairwise fun i j => i.pc < j.pc :=
  (sweeps_sweep pc bytes).pairwise

/-! ## Indices -/

theorem mem_indexByPc_iff {is : List Instruction} {pc n : Nat} :
    (pc, n) ∈ indexByPc is ↔ (is.map Instruction.pc)[n]? = some pc := by
  rw [indexByPc, List.mem_zipIdx_iff_getElem?]

/-- The number of instructions that stand before a program counter. -/
def countBefore (is : List Instruction) (pc : Nat) : Nat :=
  is.countP fun i => decide (i.pc < pc)

theorem countBefore_of_getElem? {is : List Instruction} (h : is.Pairwise fun i j => i.pc < j.pc)
    {n : Nat} {i : Instruction} (hn : is[n]? = some i) : countBefore is i.pc = n := by
  unfold countBefore
  induction is generalizing n with
  | nil => cases hn
  | cons a is ih =>
      obtain ⟨hfirst, hrest⟩ := List.pairwise_cons.mp h
      cases n with
      | zero =>
          obtain rfl : a = i := Option.some.inj hn
          rw [List.countP_cons_of_neg (by simp), List.countP_eq_zero]
          intro j hj
          have := hfirst j hj
          rw [decide_eq_true_eq]
          omega
      | succ n =>
          rw [List.getElem?_cons_succ] at hn
          have hlt := hfirst i (List.mem_of_getElem? hn)
          rw [List.countP_cons_of_pos (by simpa using hlt), ih hrest hn]

/-- The index of a program counter is the number of instructions before it. -/
theorem mem_indexByPc_iff_countBefore {is : List Instruction}
    (h : is.Pairwise fun i j => i.pc < j.pc) {pc n : Nat} :
    (pc, n) ∈ indexByPc is ↔ (∃ i ∈ is, i.pc = pc) ∧ n = countBefore is pc := by
  rw [mem_indexByPc_iff, List.getElem?_map, Option.map_eq_some_iff]
  constructor
  · rintro ⟨i, hi, rfl⟩
    exact ⟨⟨i, List.mem_of_getElem? hi, rfl⟩, (countBefore_of_getElem? h hi).symm⟩
  · rintro ⟨⟨i, hi, rfl⟩, rfl⟩
    obtain ⟨n, hn⟩ := List.mem_iff_getElem?.mp hi
    exact ⟨i, by rw [countBefore_of_getElem? h hn, hn], rfl⟩

theorem indexByPc_unique {is : List Instruction} (h : is.Pairwise fun i j => i.pc < j.pc)
    {pc m n : Nat} (hm : (pc, m) ∈ indexByPc is) (hn : (pc, n) ∈ indexByPc is) : m = n := by
  rw [mem_indexByPc_iff_countBefore h] at hm hn
  rw [hm.2, hn.2]

/-- In the index of a sweep, a program counter has the place of its instruction. -/
theorem get?_indexByPc_sweep {bytes : List UInt8} {pc n : Nat} :
    Table.get? pc (indexByPc (sweep 0 bytes)) = some n ↔
      ∃ i, (sweep 0 bytes)[n]? = some i ∧ i.pc = pc := by
  have hunique : ∀ m, (pc, m) ∈ indexByPc (sweep 0 bytes) → (pc, n) ∈ indexByPc (sweep 0 bytes) →
      m = n := fun m hm hn => indexByPc_unique (pairwise_sweep 0 bytes) hm hn
  rw [Table.get?_eq_some_iff_mem hunique, mem_indexByPc_iff, List.getElem?_map,
    Option.map_eq_some_iff]

/-! ## Boundaries of two bytecodes -/

/-- The program counter and the opcode of an instruction. -/
def head (i : Instruction) : Nat × UInt8 :=
  (i.pc, i.opcode)

/-- Where a bytecode agrees with instructions at their opcodes, its sweep begins theirs, or theirs
begins its sweep. -/
theorem Sweeps.prefix_of_agrees {pc : Nat} {a b : List UInt8} {is js : List Instruction}
    (ha : Sweeps pc a is) (hb : Sweeps pc b js)
    (hagree : ∀ i ∈ is, ∀ k x, i.pc = pc + k → b[k]? = some x → x = i.opcode) :
    is.map head <+: js.map head ∨ js.map head <+: is.map head := by
  induction ha generalizing b js with
  | nil pc => exact Or.inl List.nil_prefix
  | cut pc short => exact Or.inl List.nil_prefix
  | @step pc opcode operand rest is full tail ih =>
      cases hb with
      | nil => exact Or.inr List.nil_prefix
      | cut _ short => exact Or.inr List.nil_prefix
      | @step _ opcode' operand' rest' js full' tail' =>
          obtain rfl : opcode' = opcode := hagree _ List.mem_cons_self 0 opcode' rfl rfl
          have hlen : operand'.length = operand.length := by rw [full', full]
          rw [hlen] at tail'
          have hrest : ∀ i ∈ is, ∀ k x, i.pc = pc + 1 + operand.length + k →
              rest'[k]? = some x → x = i.opcode := by
            intro i hi k x hpc hx
            refine hagree i (List.mem_cons_of_mem _ hi) (operand'.length + k + 1) x (by omega) ?_
            rw [List.getElem?_cons_succ, List.getElem?_append_right (Nat.le_add_right _ _),
              Nat.add_sub_cancel_left]
            exact hx
          have hhead : head ⟨pc, opcode', operand'⟩ = head ⟨pc, opcode', operand⟩ := rfl
          rw [List.map_cons, List.map_cons, hhead, List.cons_prefix_cons, List.cons_prefix_cons]
          exact (ih tail' hrest).imp (fun h => ⟨rfl, h⟩) fun h => ⟨rfl, h⟩

/-- Where bytecodes agree at the opcodes of one of them, one sweep begins the other. -/
theorem prefix_or_prefix_of_agrees {pc : Nat} {a b : List UInt8}
    (h : ∀ i ∈ sweep pc a, ∀ k x, i.pc = pc + k → b[k]? = some x → x = i.opcode) :
    (sweep pc a).map head <+: (sweep pc b).map head ∨
      (sweep pc b).map head <+: (sweep pc a).map head :=
  (sweeps_sweep pc a).prefix_of_agrees (sweeps_sweep pc b) h

/-- A program counter has the same index in a list of instructions and in its beginning. -/
theorem index_eq_of_begins {is js : List Instruction} (h : is.map head <+: js.map head)
    (hjs : js.Pairwise fun i j => i.pc < j.pc) {pc m n : Nat} (hm : (pc, m) ∈ indexByPc is)
    (hn : (pc, n) ∈ indexByPc js) : m = n := by
  have hpcs : is.map Instruction.pc <+: js.map Instruction.pc := by
    have := h.map Prod.fst
    rwa [List.map_map, List.map_map] at this
  rw [mem_indexByPc_iff] at hm
  have hlt : m < (is.map Instruction.pc).length := (List.getElem?_eq_some_iff.mp hm).1
  have hm' : (js.map Instruction.pc)[m]? = some pc := by
    rw [List.prefix_iff_getElem?.mp hpcs m hlt, ← List.getElem?_eq_getElem hlt]
    exact hm
  exact indexByPc_unique hjs (mem_indexByPc_iff.mpr hm') hn

end EvmLocator.Instruction
