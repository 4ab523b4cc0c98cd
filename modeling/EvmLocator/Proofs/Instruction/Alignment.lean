import EvmLocator.Proofs.Bytecode.Comparison
import EvmLocator.Proofs.Instruction.Disassembly

/-!
# Codes that match are counted alike

A source map numbers the instructions of the code that was compiled, and an index is counted on the
code that was found.  The comparison looks at masked codes, while the sweep of the code that was
found reads it as it is, operands and all, and either code may be stripped of a trailer at its own
place.  As long as no open place holds an opcode, this makes no difference: what a match compares
includes every opcode, and opcodes alone decide where instructions stand.

## Main results

* `eq_of_closed_byte`: a byte whose digits are both compared is the same in both codes.
* `same_index_of_isMatch`: a program counter has one index in codes that match.
-/

namespace EvmLocator

open Bytecode Instruction

/-- The instructions of a candidate as it is compared: masked, and without its trailer. -/
def comparedInstructions (candidate : List Char) (regions : List Region) :
    Option (List Instruction) :=
  match windows (normalize candidate) with
  | .error _ => none
  | .ok ws => match unhex (body (core ws regions (normalize candidate))) with
    | .ok bytes => some (sweep 0 bytes)
    | .error _ => none

/-! ## The bytes behind instructions -/

theorem comparedInstructions_eq_some_iff {candidate : List Char} {regions : List Region}
    (hregions : ∀ r ∈ regions, r.Proper) {is : List Instruction} :
    comparedInstructions candidate regions = some is ↔
      ∃ ws bytes, Scan (normalize candidate) 0 ws ∧
        Spells (body (exposed (normalize candidate) ws regions (normalize candidate))) bytes ∧
        is = sweep 0 bytes := by
  have hcore : ∀ ws, core ws regions (normalize candidate) =
      exposed (normalize candidate) ws regions (normalize candidate) := fun ws => by
    rw [core, exposed, overwrite_openSpans_self hregions]
  constructor
  · intro h
    unfold comparedInstructions at h
    split at h
    · cases h
    · next ws hws =>
        split at h
        · next bytes hbytes =>
            cases h
            rw [hcore, unhex_eq_ok_iff] at hbytes
            exact ⟨ws, bytes, windows_eq_ok_iff.mp hws, hbytes, rfl⟩
        · cases h
  · rintro ⟨ws, bytes, hscan, hspells, rfl⟩
    rw [← hcore, ← unhex_eq_ok_iff] at hspells
    rw [comparedInstructions, windows_eq_ok_iff.mpr hscan]
    simp only [hspells]

theorem newline_notMem_of_spells {s : List Char} {bytes : List UInt8} (hmark : mark <+: s)
    (h : Spells (body s) bytes) : '\n' ∉ s := by
  obtain ⟨rest, rfl⟩ := hmark
  rw [List.mem_append, not_or]
  exact ⟨by decide, h.newline_notMem⟩

/-! ## One byte of two codes -/

theorem getElem?_body (s : List Char) (i : Nat) : (body s)[i]? = s[2 + i]? := by
  rw [body, List.getElem?_drop]

/-- A byte whose digits are both compared is the same in the candidate and in the observed code. -/
theorem eq_of_closed_byte {observed candidate : List Char} {ws : List Nat}
    {regions : List Region} {as bs : List UInt8} (hscan : Scan candidate 0 ws)
    (hregions : ∀ r ∈ regions, r.Proper) (hcandidate : mark <+: candidate)
    (hobserved : mark <+: observed)
    (hbegins : exposed candidate ws regions candidate <+: exposed candidate ws regions observed)
    (ha : Spells (body (exposed candidate ws regions candidate)) as)
    (hb : Spells (body (stripMetadata observed)) bs) {k : Nat} {x y : UInt8}
    (hx : as[k]? = some x) (hy : bs[k]? = some y)
    (hhigh : ¬ Open candidate regions (2 + 2 * k))
    (hlow : ¬ Open candidate regions (3 + 2 * k)) : x = y := by
  have hline := newline_notMem_of_spells
    (mark_prefix_exposed hcandidate hscan hregions hcandidate) ha
  have hstrip : stripMetadata observed <+: observed :=
    prefix_of_prefix_stripMetadata (List.prefix_refl _)
      (newline_notMem_of_spells (mark_prefix_stripMetadata hobserved) hb)
  have hka : k < as.length := (List.getElem?_eq_some_iff.mp hx).1
  have hkb : k < bs.length := (List.getElem?_eq_some_iff.mp hy).1
  have hlena := ha.length
  have hlenb := hb.length
  rw [body, List.length_drop] at hlena hlenb
  have hplace : ∀ i, i = 2 * k ∨ i = 2 * k + 1 → ¬ Open candidate regions (2 + i) →
      (body (exposed candidate ws regions candidate))[i]? = (body (stripMetadata observed))[i]? := by
    intro i hi hopen
    rw [getElem?_body, getElem?_body, ← getElem?_eq_of_prefix hstrip (i := 2 + i) (by omega)]
    exact (getElem?_eq_exposed hscan hregions hbegins hline (by omega) hopen).symm
  refine ha.getElem?_eq hb hx hy (hplace _ (Or.inl rfl) hhigh) (hplace _ (Or.inr rfl) ?_)
  rwa [show 2 + (2 * k + 1) = 3 + 2 * k by omega]

/-! ## The main result -/

/-- **Codes that match are counted alike.**  If no open place of the candidate holds an opcode, the
candidate and the code found on chain have the same boundaries as far as both go, and a program
counter that is a boundary of both has the same index in both. -/
theorem same_index_of_isMatch {observed candidate : List Char} {regions : List Region}
    {compared found : List Instruction} (hregions : ∀ r ∈ regions, r.Proper)
    (hmatch : (compare observed candidate regions).isMatch = true)
    (hcompared : comparedInstructions candidate regions = some compared)
    (hfound : disassemble observed = .ok found)
    (hclosed : ∀ i ∈ compared, ¬ Open (normalize candidate) regions (2 + 2 * i.pc) ∧
      ¬ Open (normalize candidate) regions (3 + 2 * i.pc)) :
    (compared.map head <+: found.map head ∨ found.map head <+: compared.map head) ∧
      ∀ pc m n, (pc, m) ∈ indexByPc compared → (pc, n) ∈ indexByPc found → m = n := by
  obtain ⟨ws, as, hscan, ha, rfl⟩ := (comparedInstructions_eq_some_iff hregions).mp hcompared
  obtain ⟨bs, hb, rfl⟩ := disassemble_eq_ok_iff.mp hfound
  have hbegins : exposed (normalize candidate) ws regions (normalize candidate) <+:
      exposed (normalize candidate) ws regions (normalize observed) := by
    obtain ⟨-, heq | ⟨ws', hscan', -, hbegins⟩⟩ := (isMatch_compare_iff hregions).mp hmatch
    · exact ⟨[], by rw [List.append_nil, heq]⟩
    · rwa [hscan'.unique hscan] at hbegins
  have hheads : (sweep 0 as).map head <+: (sweep 0 bs).map head ∨
      (sweep 0 bs).map head <+: (sweep 0 as).map head := by
    apply prefix_or_prefix_of_agrees
    intro i hi k y hpc hy
    obtain ⟨k', hpc', hx⟩ := (sweeps_sweep 0 as).opcode_of_mem i hi
    obtain rfl : k' = k := by omega
    obtain rfl : i.pc = k' := by omega
    obtain ⟨hhigh, hlow⟩ := hclosed i hi
    exact (eq_of_closed_byte hscan hregions (mark_prefix_normalize _) (mark_prefix_normalize _)
      hbegins ha hb hx hy hhigh hlow).symm
  refine ⟨hheads, fun pc m n hm hn => ?_⟩
  rcases hheads with h | h
  · exact index_eq_of_begins h (pairwise_sweep 0 bs) hm hn
  · exact (index_eq_of_begins h (pairwise_sweep 0 as) hn hm).symm

namespace Bytecode.Sample

/-- The instructions of the candidate: its guard, the masked address and the masked byte. -/
def compared : List Instruction :=
  [⟨0, 0x73, List.replicate 20 0⟩, ⟨21, 0x30, []⟩, ⟨22, 0x14, []⟩,
    ⟨23, 0x73, List.replicate 20 0⟩, ⟨44, 0x60, [0]⟩]

/-- The instructions of the deployment, of which the last are read from its trailer. -/
def found : List Instruction :=
  [⟨0, 0x73, List.replicate 20 0x11⟩, ⟨21, 0x30, []⟩, ⟨22, 0x14, []⟩,
    ⟨23, 0x73, List.replicate 20 0x22⟩, ⟨44, 0x60, [0xff]⟩, ⟨46, 0xa2, []⟩,
    ⟨47, 0x64, [0x69, 0x70, 0x66, 0x73, 0x58]⟩, ⟨53, 0x22, []⟩] ++
  (List.range 24).map fun n => ⟨54 + n, 0xee, []⟩

end Bytecode.Sample

/-- The sample meets the assumptions of `same_index_of_isMatch`. -/
theorem same_index_of_isMatch_sample :
    (∀ r ∈ Sample.regions, r.Proper) ∧
      (compare Sample.observed Sample.candidate Sample.regions).isMatch = true ∧
      comparedInstructions Sample.candidate Sample.regions = some Sample.compared ∧
      disassemble Sample.observed = .ok Sample.found ∧
      (∀ i ∈ Sample.compared,
        ¬ Open (normalize Sample.candidate) Sample.regions (2 + 2 * i.pc) ∧
        ¬ Open (normalize Sample.candidate) Sample.regions (3 + 2 * i.pc)) ∧
      (Sample.compared.map head <+: Sample.found.map head ∨
        Sample.found.map head <+: Sample.compared.map head) ∧
      ∀ pc m n, (pc, m) ∈ indexByPc Sample.compared → (pc, n) ∈ indexByPc Sample.found →
        m = n := by
  have hregions := Sample.regions_proper
  have hmatch := Sample.isMatch_sample
  have hcompared :
      comparedInstructions Sample.candidate Sample.regions = some Sample.compared := by
    decide +kernel
  have hfound : disassemble Sample.observed = .ok Sample.found := by
    decide +kernel
  have hscan : Scan (normalize Sample.candidate) 0 [50] := by
    rw [← windows_eq_ok_iff]
    decide +kernel
  have hclosed : ∀ i ∈ Sample.compared,
      ¬ Open (normalize Sample.candidate) Sample.regions (2 + 2 * i.pc) ∧
      ¬ Open (normalize Sample.candidate) Sample.regions (3 + 2 * i.pc) := by
    simp only [open_iff_covers hscan hregions]
    decide +kernel
  exact ⟨hregions, hmatch, hcompared, hfound, hclosed,
    same_index_of_isMatch hregions hmatch hcompared hfound hclosed⟩

end EvmLocator
