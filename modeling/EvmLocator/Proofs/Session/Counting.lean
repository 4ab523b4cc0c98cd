import EvmLocator.Proofs.Instruction.Sweep
import EvmLocator.Proofs.Json.Scalar
import EvmLocator.Proofs.Session.Loading

/-!
# From a step of a trace to an instruction

A step of a trace says at which program counter it stands, if it is an object with such a member.
The program counter is a key of any kind of number, and it leads to an instruction if it counts as
the place of one.  A number counts as one integer at most, so it leads to one instruction at most,
and the index that a session answers is the number of instructions before that one.

## Main results

* `indexOfStep_iff`: which steps lead to an instruction and to which, and why the others do not.
-/

namespace EvmLocator

/-! ## The index of a program counter -/

namespace LoadedCode

variable {code : LoadedCode} {is : List Instruction} {pc : Scalar}

theorem indexAt_eq_some_iff (hcode : code.indexByPc = Instruction.indexByPc is)
    (his : is.Pairwise fun i j => i.pc < j.pc) {n : Nat} :
    code.indexAt pc = some n ↔
      ∃ i ∈ is, pc.same (.int i.pc) = true ∧ n = Instruction.countBefore is i.pc := by
  rw [indexAt, hcode, Option.map_eq_some_iff]
  constructor
  · rintro ⟨⟨p, m⟩, hfind, rfl⟩
    have hsame := List.find?_some hfind
    obtain ⟨⟨i, hi, rfl⟩, hm⟩ :=
      (Instruction.mem_indexByPc_iff_countBefore his).mp (List.mem_of_find?_eq_some hfind)
    exact ⟨i, hi, hsame, hm⟩
  · rintro ⟨i, hi, hsame, rfl⟩
    have hmem : (i.pc, Instruction.countBefore is i.pc) ∈ Instruction.indexByPc is :=
      (Instruction.mem_indexByPc_iff_countBefore his).mpr ⟨⟨i, hi, rfl⟩, rfl⟩
    cases hfind : (Instruction.indexByPc is).find? fun entry => pc.same (.int entry.1) with
    | none => exact absurd hsame (List.find?_eq_none.mp hfind _ hmem)
    | some entry =>
        -- The first entry that the key counts as is the entry of `i`.
        obtain ⟨p, m⟩ := entry
        have hfound := List.find?_some hfind
        obtain rfl : p = i.pc := Int.ofNat.inj (Scalar.eq_of_same_int hfound hsame)
        exact ⟨_, rfl, Instruction.indexByPc_unique his (List.mem_of_find?_eq_some hfind) hmem⟩

theorem indexAt_eq_none_iff (hcode : code.indexByPc = Instruction.indexByPc is) :
    code.indexAt pc = none ↔ ∀ i ∈ is, ¬ pc.same (.int i.pc) = true := by
  rw [indexAt, hcode, Option.map_eq_none_iff, List.find?_eq_none]
  constructor
  · intro h i hi
    obtain ⟨n, hn⟩ := List.mem_iff_getElem?.mp hi
    have hmem : (i.pc, n) ∈ Instruction.indexByPc is := by
      rw [Instruction.mem_indexByPc_iff, List.getElem?_map, hn, Option.map_some]
    exact h _ hmem
  · rintro h ⟨p, n⟩ hmem
    rw [Instruction.mem_indexByPc_iff, List.getElem?_map, Option.map_eq_some_iff] at hmem
    obtain ⟨i, hi, rfl⟩ := hmem
    exact h i (List.mem_of_getElem? hi)

end LoadedCode

/-! ## The program counter of a step -/

/-- Whether a step of a trace stands at a program counter. -/
structure StandsAt (steps : List Json) (step : Integer) (pc : Scalar) : Prop where
  from_first : 0 ≤ step.value
  member : ∃ members v, steps[step.value.toNat]? = some (.obj members) ∧
    Table.get? "pc" members = some v ∧ v.scalar? = some pc
  not_null : pc ≠ .null

/-- Why a step of a trace leads to none of the instructions of an address. -/
inductive LeadsNowhere (steps : List Json) (step : Integer) (is : List Instruction)
    (address : String) : Fault → Prop where
  | outOfRange (out : step.value < 0 ∨ steps.length ≤ step.value) :
      LeadsNowhere steps step is address (.stepOutOfRange step steps.length)
  | notAnObject {v : Json} (from_first : 0 ≤ step.value)
      (found : steps[step.value.toNat]? = some v) (other : ∀ members, v ≠ .obj members) :
      LeadsNowhere steps step is address (.unfit .lacksOperation)
  | noCounter {members : List (String × Json)} (from_first : 0 ≤ step.value)
      (found : steps[step.value.toNat]? = some (.obj members))
      (absent : Table.get? "pc" members = none ∨ Table.get? "pc" members = some .null) :
      LeadsNowhere steps step is address (.stepWithoutCounter step)
  | noKey {members : List (String × Json)} {v : Json} (from_first : 0 ≤ step.value)
      (found : steps[step.value.toNat]? = some (.obj members))
      (counter : Table.get? "pc" members = some v) (parts : v.scalar? = none) :
      LeadsNowhere steps step is address (.unfit .wrongKind)
  | notAnInstruction {pc : Scalar} (stands : StandsAt steps step pc)
      (misses : ∀ i ∈ is, ¬ pc.same (.int i.pc) = true) :
      LeadsNowhere steps step is address (.stepAtNoInstruction pc step address)

/-- The index that a loaded code gives a step. -/
def indexOfStep (steps : List Json) (address : String) (step : Integer) (code : LoadedCode) :
    Except Fault Nat := do
  let pc ← Trace.counterAt steps step
  match pc.scalar? with
  | none => .error (.unfit .wrongKind)
  | some pc => match code.indexAt pc with
    | some index => .ok index
    | none => .error (.stepAtNoInstruction pc step address)

theorem instructionIndex_eq_indexOfStep {s : Session} {address : String} {code : LoadedCode}
    (h : s.codes.get? (Address.key address) = some code) (step : Integer) :
    s.instructionIndex address step = indexOfStep s.trace address step code := by
  rw [Session.instructionIndex, h]
  rfl

section

variable {steps : List Json} {step : Integer} {address : String} {is : List Instruction}

theorem counterAt_eq_ok_iff {v : Json} :
    Trace.counterAt steps step = .ok v ↔
      0 ≤ step.value ∧ v ≠ .null ∧ ∃ members, steps[step.value.toNat]? = some (.obj members) ∧
        Table.get? "pc" members = some v := by
  constructor
  · intro h
    unfold Trace.counterAt at h
    split at h
    · cases h
    · next hneg =>
        refine ⟨by omega, ?_⟩
        split at h
        · cases h
        · next members hfound =>
            split at h
            · cases h
            · cases h
            · next pc hnull hpc =>
                cases h
                exact ⟨hnull, members, hfound, hpc⟩
        · cases h
  · rintro ⟨hpos, hnull, members, hfound, hpc⟩
    rw [Trace.counterAt, if_neg (by omega), hfound]
    simp only [hpc]

theorem leadsNowhere_of_counterAt {f : Fault} (h : Trace.counterAt steps step = .error f) :
    LeadsNowhere steps step is address f := by
  unfold Trace.counterAt at h
  split at h
  · next hneg =>
      cases h
      exact .outOfRange (Or.inl hneg)
  · next hneg =>
      have hpos : 0 ≤ step.value := by omega
      split at h
      · next hfound =>
          cases h
          have hout := List.getElem?_eq_none_iff.mp hfound
          exact .outOfRange (Or.inr (by omega))
      · next members hfound =>
          split at h
          · next hpc =>
              cases h
              exact .noCounter hpos hfound (Or.inl hpc)
          · next hpc =>
              cases h
              exact .noCounter hpos hfound (Or.inr hpc)
          · cases h
      · next v hother hfound =>
          cases h
          exact .notAnObject hpos hfound hother

theorem scalar?_eq_some_null_iff {v : Json} : v.scalar? = some .null ↔ v = .null := by
  cases v <;> simp [Json.scalar?]

theorem standsAt_of_counterAt {v : Json} {pc : Scalar} (h : Trace.counterAt steps step = .ok v)
    (hpc : v.scalar? = some pc) : StandsAt steps step pc := by
  obtain ⟨hpos, hnull, members, hfound, hmember⟩ := counterAt_eq_ok_iff.mp h
  refine { from_first := hpos, member := ⟨members, v, hfound, hmember, hpc⟩, not_null := ?_ }
  rintro rfl
  exact hnull (scalar?_eq_some_null_iff.mp hpc)

/-- At a step that stands at a program counter, the index is that of the program counter. -/
theorem indexOfStep_of_standsAt {pc : Scalar} (h : StandsAt steps step pc) (code : LoadedCode) :
    indexOfStep steps address step code =
      match code.indexAt pc with
      | some index => .ok index
      | none => .error (.stepAtNoInstruction pc step address) := by
  obtain ⟨members, v, hfound, hmember, hpc⟩ := h.member
  have hnull : v ≠ .null := fun hv => h.not_null (by
    rw [scalar?_eq_some_null_iff.mpr hv] at hpc
    exact (Option.some.inj hpc).symm)
  have hcounter := counterAt_eq_ok_iff.mpr ⟨h.from_first, hnull, members, hfound, hmember⟩
  rw [indexOfStep, hcounter]
  show (match v.scalar? with
    | none => _
    | some pc => _) = _
  rw [hpc]

theorem indexOfStep_of_counterAt {f : Fault} (h : Trace.counterAt steps step = .error f)
    (code : LoadedCode) : indexOfStep steps address step code = .error f := by
  rw [indexOfStep, h]
  rfl

variable {code : LoadedCode}

theorem indexOfStep_of_leadsNowhere (hcode : code.indexByPc = Instruction.indexByPc is)
    {f : Fault} (h : LeadsNowhere steps step is address f) :
    indexOfStep steps address step code = .error f := by
  cases h with
  | outOfRange out =>
      apply indexOfStep_of_counterAt
      unfold Trace.counterAt
      split
      · rfl
      · rw [List.getElem?_eq_none (by omega)]
  | notAnObject from_first found other =>
      apply indexOfStep_of_counterAt
      rw [Trace.counterAt, if_neg (by omega), found]
      split
      · next h => cases h
      · next members h => exact absurd (Option.some.inj h) (other members)
      · rfl
  | noCounter from_first found absent =>
      apply indexOfStep_of_counterAt
      rw [Trace.counterAt, if_neg (by omega), found]
      rcases absent with absent | absent
      · simp only [absent]
      · simp only [absent]
  | @noKey members v from_first found counter parts =>
      have hnull : v ≠ .null := by
        rintro rfl
        cases parts
      rw [indexOfStep, counterAt_eq_ok_iff.mpr ⟨from_first, hnull, members, found, counter⟩]
      show (match v.scalar? with
        | none => _
        | some pc => _) = _
      rw [parts]
  | notAnInstruction stands misses =>
      rw [indexOfStep_of_standsAt stands, (LoadedCode.indexAt_eq_none_iff hcode).mpr misses]

theorem standsAt_or_leadsNowhere (steps : List Json) (step : Integer) (is : List Instruction)
    (address : String) :
    (∃ pc, StandsAt steps step pc) ∨ ∃ f, LeadsNowhere steps step is address f := by
  cases hcounter : Trace.counterAt steps step with
  | error f => exact Or.inr ⟨f, leadsNowhere_of_counterAt hcounter⟩
  | ok v =>
      obtain ⟨hpos, hnull, members, hfound, hmember⟩ := counterAt_eq_ok_iff.mp hcounter
      cases hpc : v.scalar? with
      | none => exact Or.inr ⟨_, .noKey hpos hfound hmember hpc⟩
      | some pc => exact Or.inl ⟨pc, standsAt_of_counterAt hcounter hpc⟩

/-- A step that is given no index by a code leads nowhere among no instructions. -/
theorem leadsNowhere_of_indexOfStep {f : Fault} (h : indexOfStep steps address step code = .error f) :
    LeadsNowhere steps step [] address f := by
  rw [indexOfStep] at h
  rcases error_of_bind h with hcounter | ⟨v, hcounter, h⟩
  · exact leadsNowhere_of_counterAt hcounter
  · obtain ⟨hpos, -, members, hfound, hmember⟩ := counterAt_eq_ok_iff.mp hcounter
    split at h
    · next hpc =>
        cases h
        exact .noKey hpos hfound hmember hpc
    · next pc hpc =>
        split at h
        · cases h
        · cases h
          exact .notAnInstruction (standsAt_of_counterAt hcounter hpc) (List.forall_mem_nil _)

/-- Whether a fault is one of a step whose code is loaded. -/
inductive Fault.OfStep : Fault → Prop where
  | trace {e : TraceFault} (loaded : ∀ a, e ≠ .notLoaded a) : OfStep (.trace e)
  | unfit (u : Unfit) : OfStep (.unfit u)

theorem LeadsNowhere.ofStep {f : Fault} (h : LeadsNowhere steps step is address f) : f.OfStep := by
  cases h with
  | outOfRange =>
      exact Fault.showing_of_forall .unfit fun shown => .trace fun a ha => by cases ha
  | notAnObject => exact .unfit _
  | noCounter =>
      exact Fault.showing_of_forall .unfit fun shown => .trace fun a ha => by cases ha
  | noKey => exact .unfit _
  | notAnInstruction =>
      refine Fault.showing_of_forall .unfit fun counter => ?_
      exact Fault.showing_of_forall .unfit fun shown => .trace fun a ha => by cases ha

theorem ofStep_of_indexOfStep {f : Fault} (h : indexOfStep steps address step code = .error f) :
    f.OfStep :=
  (leadsNowhere_of_indexOfStep h).ofStep

theorem leads_or_leadsNowhere (steps : List Json) (step : Integer) (is : List Instruction)
    (address : String) :
    (∃ pc, StandsAt steps step pc ∧ ∃ i ∈ is, pc.same (.int i.pc) = true) ∨
      ∃ f, LeadsNowhere steps step is address f := by
  rcases standsAt_or_leadsNowhere steps step is address with ⟨pc, hpc⟩ | hnowhere
  · by_cases hhits : ∃ i ∈ is, pc.same (.int i.pc) = true
    · exact Or.inl ⟨pc, hpc, hhits⟩
    · exact Or.inr ⟨_, .notAnInstruction hpc fun i hi hsame => hhits ⟨i, hi, hsame⟩⟩
  · exact Or.inr hnowhere

/-- A step leads to the instruction that its program counter counts as, and is given the number of
instructions before it; a step that leads to none answers the reason. -/
theorem indexOfStep_iff (hcode : code.indexByPc = Instruction.indexByPc is)
    (his : is.Pairwise fun i j => i.pc < j.pc) (steps : List Json) (step : Integer)
    (address : String) :
    (∀ n, indexOfStep steps address step code = .ok n ↔
      ∃ pc, StandsAt steps step pc ∧
        ∃ i ∈ is, pc.same (.int i.pc) = true ∧ n = Instruction.countBefore is i.pc) ∧
      ∀ f, indexOfStep steps address step code = .error f ↔
        LeadsNowhere steps step is address f := by
  refine iff_of_exhaustive ?_ (fun f => indexOfStep_of_leadsNowhere hcode) ?_
  · rintro n ⟨pc, hpc, hindex⟩
    rw [indexOfStep_of_standsAt hpc, (LoadedCode.indexAt_eq_some_iff hcode his).mpr hindex]
  · rcases leads_or_leadsNowhere steps step is address with ⟨pc, hpc, i, hi, hsame⟩ | hnowhere
    · exact Or.inl ⟨_, pc, hpc, i, hi, hsame, rfl⟩
    · exact Or.inr hnowhere

end

end EvmLocator
