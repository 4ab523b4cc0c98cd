import EvmLocator.Catalog.Artifact
import EvmLocator.Proofs.Bytecode.Overwrite

/-!
# Where masking a region is local

A region says a start and a length in bytes, and masking it is meant to put zeros in its places and
to do nothing else.  A catalog asks of the two numbers only that they are integers, so every list of
regions can be read (`readAll_documents`), and what a number below zero does is decided by the rules
for bounds of a slice.  A start that lies before the code counts from the end of it, and a length
below zero moves the second cut before the first, so that a piece of the code comes twice.

Masking cuts a code at two positions and puts zeros between the pieces.  If the cuts are as far
apart as there are zeros, the code is masked at natural places, the ones between the cuts, and keeps
its length; if they are not, its length changes (`length_mask_eq_iff`).  Everything else follows
from where these places are.

## Main results

* `readAll_documents`: a catalog accepts every list of regions.
* `isLocal_mask_iff`: the masking of one region of one code that is local.
* `forall_isLocal_mask_iff`: the regions whose masking is local for every code.
* `maskRegions_inside`: a whole list of such regions.
* `accepted_and_masked`: what is accepted, step by step and as a whole.
-/

namespace EvmLocator.Region

/-! ## Lists that a catalog accepts -/

/-- A region as a document spells it. -/
def document (r : Region) : Json :=
  .obj [("start", r.start.toJson), ("length", r.length.toJson)]

theorem read_document (path : Path) (r : Region) : Region.read path r.document = .ok r := by
  obtain ⟨start, length⟩ := r
  cases start <;> cases length <;> rfl

/-- Every list of regions can be read from a document, whatever the signs of its numbers. -/
theorem readAll_documents (path : Path) (regions : List Region) :
    Region.readAll path (.arr (regions.map document)) = .ok regions := by
  have hitems : ∀ index,
      Reading.items Region.read path index (regions.map document) = .ok regions := by
    induction regions with
    | nil => exact fun _ => rfl
    | cons r regions ih =>
        intro index
        rw [List.map_cons, Reading.items, read_document, ih (index + 1)]
        rfl
  exact hitems 0

/-! ## Places -/

/-- Whether a place of a code in normal form is one of the region. -/
def Covers (r : Region) (i : Nat) : Prop :=
  r.position ≤ i ∧ (i : Int) < r.position + r.width

/-- A code with the region overwritten. -/
def mask (r : Region) (code : List Char) : List Char :=
  Bytecode.zeroRegion code r.position r.width

/-- Whether a code and what masking made of it have the same length and differ only in places of
the region. -/
structure IsLocal (r : Region) (code masked : List Char) : Prop where
  length_eq : masked.length = code.length
  same : ∀ i : Nat, ¬ r.Covers i → masked[i]? = code[i]?

theorem IsLocal.refl (r : Region) (code : List Char) : r.IsLocal code code :=
  ⟨rfl, fun _ _ => rfl⟩

/-- Where the first piece of a masked code ends. -/
def firstCut (r : Region) (code : List Char) : Nat :=
  Slice.position code.length r.position

/-- Where the last piece of a masked code begins. -/
def lastCut (r : Region) (code : List Char) : Nat :=
  Slice.position code.length (r.position + r.width)

/-- Whether a code ends before the region does. -/
def PastEnd (r : Region) (code : List Char) : Prop :=
  (code.length : Int) < r.position + r.width

/-- Whether the pieces of a masked code are as far apart as there are zeros to go between them. -/
def Meets (r : Region) (code : List Char) : Prop :=
  r.firstCut code + r.width.toNat = r.lastCut code

section

variable {r : Region} {code : List Char}

theorem mask_of_pastEnd (h : r.PastEnd code) : r.mask code = code :=
  if_pos h

theorem mask_of_not_pastEnd (h : ¬ r.PastEnd code) :
    r.mask code =
      code.take (r.firstCut code) ++ List.replicate r.width.toNat '0' ++
        code.drop (r.lastCut code) :=
  if_neg h

/-- Masking keeps the length of a code that reaches the end of the region exactly if the pieces
leave room for the zeros. -/
theorem length_mask_eq_iff (h : ¬ r.PastEnd code) :
    (r.mask code).length = code.length ↔ r.Meets code := by
  have hfirst : r.firstCut code ≤ code.length := Slice.position_le _ _
  have hlast : r.lastCut code ≤ code.length := Slice.position_le _ _
  rw [mask_of_not_pastEnd h, List.length_append, List.length_append, List.length_take,
    List.length_replicate, List.length_drop, Meets]
  omega

/-- Then the code is masked at the places between the pieces. -/
theorem getElem?_mask (h : ¬ r.PastEnd code) (hmeets : r.Meets code) (i : Nat) :
    (r.mask code)[i]? =
      if r.firstCut code ≤ i ∧ i < r.lastCut code then some '0' else code[i]? := by
  have hlast : r.lastCut code ≤ code.length := Slice.position_le _ _
  have hmask : r.mask code = Bytecode.zeroRegion code (r.firstCut code) r.width.toNat := by
    rw [mask_of_not_pastEnd h, Bytecode.zeroRegion_of_nat, hmeets, if_neg (by omega)]
  rw [hmask]
  refine (Bytecode.getElem?_zeroRegion code ⟨r.firstCut code, r.width.toNat⟩ i).trans
    (ite_congr (propext ?_) (fun _ => rfl) fun _ => rfl)
  rw [Bytecode.Span.Within, Bytecode.Span.Covers, hmeets]
  exact and_iff_right hlast

/-! ## One region -/

/-- The masking of a region of a code that is local: the code ends before the region; or the region
begins in the code and has no negative length; or the pieces leave room for the zeros, and zeros is
what stood there. -/
inductive InPlace (r : Region) (code : List Char) : Prop
  | pastEnd (short : r.PastEnd code)
  | inside (start : 0 ≤ r.position) (length : 0 ≤ r.width)
  | idle (meets : r.Meets code)
      (zeros : ∀ i, r.firstCut code ≤ i → i < r.lastCut code → code[i]? = some '0')

/-- A region that begins in the code and has no negative length is masked between its own ends. -/
theorem cuts_of_inside (h : ¬ r.PastEnd code) (hstart : 0 ≤ r.position) (hlength : 0 ≤ r.width) :
    (r.firstCut code : Int) = r.position ∧ (r.lastCut code : Int) = r.position + r.width := by
  unfold PastEnd at h
  unfold firstCut lastCut
  rw [Slice.position_of_nonneg hstart, Slice.position_of_nonneg (by omega)]
  omega

/-- Where a region that does not begin in the code, or has a negative length, leaves room for the
zeros, none of the places between the pieces is one of its own. -/
theorem not_covers_of_meets (hmeets : r.Meets code) (h : ¬ (0 ≤ r.position ∧ 0 ≤ r.width)) {i : Nat}
    (hfirst : r.firstCut code ≤ i) (hlast : i < r.lastCut code) : ¬ r.Covers i := by
  unfold Meets at hmeets
  rintro ⟨hge, hlt⟩
  have hbefore : r.position < 0 := by omega
  have hend : r.lastCut code = min (r.position + r.width).toNat code.length :=
    Slice.position_of_nonneg (by omega)
  omega

/-- **Where masking a region is local.** -/
theorem isLocal_mask_iff : r.IsLocal code (r.mask code) ↔ r.InPlace code := by
  by_cases hshort : r.PastEnd code
  · rw [mask_of_pastEnd hshort]
    exact iff_of_true (.refl r code) (.pastEnd hshort)
  · constructor
    · intro h
      by_cases hinside : 0 ≤ r.position ∧ 0 ≤ r.width
      · exact .inside hinside.1 hinside.2
      · have hmeets := (length_mask_eq_iff hshort).mp h.length_eq
        refine .idle hmeets fun i hfirst hlast => ?_
        rw [← h.same i (not_covers_of_meets hmeets hinside hfirst hlast),
          getElem?_mask hshort hmeets, if_pos ⟨hfirst, hlast⟩]
    · intro h
      cases h with
      | pastEnd short => exact absurd short hshort
      | inside start length =>
          obtain ⟨hfirst, hlast⟩ := cuts_of_inside hshort start length
          have hmeets : r.Meets code := by
            unfold Meets
            omega
          refine ⟨(length_mask_eq_iff hshort).mpr hmeets, fun i hout => ?_⟩
          rw [getElem?_mask hshort hmeets, if_neg]
          rintro ⟨hge, hlt⟩
          exact hout ⟨by omega, by omega⟩
      | idle meets zeros =>
          refine ⟨(length_mask_eq_iff hshort).mpr meets, fun i _ => ?_⟩
          rw [getElem?_mask hshort meets]
          split
          · next hi => exact (zeros i hi.1 hi.2).symm
          · rfl

/-- A region without length is never masked. -/
theorem inPlace_of_width_eq_zero (h : r.width = 0) (code : List Char) : r.InPlace code := by
  have hcuts : r.firstCut code = r.lastCut code := by rw [firstCut, lastCut, h, Int.add_zero]
  refine .idle ?_ fun i hfirst hlast => ?_
  · rw [Meets, h, hcuts]
    rfl
  · omega

/-- A code that is long enough, and has no zeros, shows every region that is not masked locally. -/
theorem not_inPlace_replicate (hwidth : r.width ≠ 0) (h : ¬ (0 ≤ r.position ∧ 0 ≤ r.width)) :
    ¬ r.InPlace (List.replicate (r.position.natAbs + r.width.natAbs + 1) '1') := by
  intro hinPlace
  cases hinPlace with
  | pastEnd short =>
      rw [PastEnd, List.length_replicate] at short
      omega
  | inside start length => exact h ⟨start, length⟩
  | idle meets zeros =>
      have hzero := zeros (r.firstCut (List.replicate (r.position.natAbs + r.width.natAbs + 1) '1'))
      rw [Meets] at meets
      simp only [firstCut, lastCut, List.length_replicate, Slice.position] at meets hzero
      by_cases hlength : 0 ≤ r.width
      · have hbefore : r.position < 0 := by omega
        have hone := hzero (Nat.le_refl _) (by omega)
        rw [if_pos hbefore, List.getElem?_replicate, if_pos (by omega)] at hone
        exact absurd hone (by decide)
      · split at meets <;> split at meets <;> omega

/-- **The regions whose masking is local for every code.**  They are the regions without length, and
those that begin at the mark of a code or behind it and have no negative length. -/
theorem forall_isLocal_mask_iff :
    (∀ code, r.IsLocal code (r.mask code)) ↔
      r.length.value = 0 ∨ (-1 ≤ r.start.value ∧ 0 ≤ r.length.value) := by
  have hnumbers : (r.width = 0 ↔ r.length.value = 0) ∧ (0 ≤ r.position ↔ -1 ≤ r.start.value) ∧
      (0 ≤ r.width ↔ 0 ≤ r.length.value) := by
    unfold width position
    omega
  obtain ⟨hzero, hstart, hlength⟩ := hnumbers
  simp only [isLocal_mask_iff]
  rw [← hzero, ← hstart, ← hlength]
  constructor
  · intro h
    by_cases hwidth : r.width = 0
    · exact Or.inl hwidth
    · refine Or.inr (Decidable.byContradiction fun hinside => ?_)
      exact not_inPlace_replicate hwidth hinside (h _)
  · rintro (hwidth | ⟨hpos, hnonneg⟩) code
    · exact inPlace_of_width_eq_zero hwidth code
    · exact .inside hpos hnonneg

end

/-! ## A list of regions -/

theorem maskRegions_concat (before : List Region) (r : Region) (code : List Char) :
    Bytecode.maskRegions (before ++ [r]) code = r.mask (Bytecode.maskRegions before code) := by
  rw [Bytecode.maskRegions, List.foldl_append]
  rfl

/-- Regions whose masking is local, one after the other, change nothing outside them all. -/
theorem maskRegions_inside {regions : List Region}
    (h : ∀ r ∈ regions, ∀ code, r.IsLocal code (r.mask code)) (code : List Char) :
    (Bytecode.maskRegions regions code).length = code.length ∧
      ∀ i, (∀ r ∈ regions, ¬ r.Covers i) →
        (Bytecode.maskRegions regions code)[i]? = code[i]? := by
  induction regions generalizing code with
  | nil => exact ⟨rfl, fun _ _ => rfl⟩
  | cons r regions ih =>
      have hr := h r List.mem_cons_self code
      obtain ⟨hlength, hsame⟩ := ih (fun q hq => h q (List.mem_cons_of_mem _ hq)) (r.mask code)
      refine ⟨hlength.trans hr.length_eq, fun i hi => ?_⟩
      exact (hsame i fun q hq => hi q (List.mem_cons_of_mem _ hq)).trans
        (hr.same i (hi r List.mem_cons_self))

/-- **What a catalog accepts, and which of it is masked locally.**  Every list of regions is
accepted, with numbers of every sign.  A step of masking such a list is local exactly if the region
is masked in place in the code that the step meets; for every code, exactly if the region has no
length, or has no negative length and begins no further before the code than its mark.  If all
regions are like that, nothing outside them changes. -/
theorem accepted_and_masked (path : Path) (regions : List Region) :
    (∃ v, Region.readAll path v = .ok regions) ∧
      (∀ before r after code, regions = before ++ r :: after →
        (r.IsLocal (Bytecode.maskRegions before code) (Bytecode.maskRegions (before ++ [r]) code) ↔
          r.InPlace (Bytecode.maskRegions before code))) ∧
      (∀ r ∈ regions, (∀ code, r.IsLocal code (r.mask code)) ↔
        r.length.value = 0 ∨ (-1 ≤ r.start.value ∧ 0 ≤ r.length.value)) ∧
      ((∀ r ∈ regions, r.length.value = 0 ∨ (-1 ≤ r.start.value ∧ 0 ≤ r.length.value)) →
        ∀ code, (Bytecode.maskRegions regions code).length = code.length ∧
          ∀ i, (∀ r ∈ regions, ¬ r.Covers i) →
            (Bytecode.maskRegions regions code)[i]? = code[i]?) := by
  refine ⟨⟨_, readAll_documents path regions⟩, fun before r after code _ => ?_,
    fun r _ => forall_isLocal_mask_iff, fun h => ?_⟩
  · rw [maskRegions_concat]
    exact isLocal_mask_iff
  · exact maskRegions_inside fun r hr => forall_isLocal_mask_iff.mpr (h r hr)

/-- Three lists that a catalog accepts.  A byte before the code is masked as many places before the
end of it; a byte just before the mark brings in the whole code once more, and so does a negative
length. -/
theorem accepted_and_not_local :
    let back : Region := ⟨.num (-3), .num 1⟩
    let around : Region := ⟨.num (-2), .num 1⟩
    let reversed : Region := ⟨.num 0, .num (-1)⟩
    let code := "0x6001".toList
    Region.readAll (.root "r") (.arr [.obj [("start", .int (-3)), ("length", .int 1)]]) =
        .ok [back] ∧
      back.mask code = "0x0001".toList ∧ ¬ back.IsLocal code (back.mask code) ∧
      Region.readAll (.root "r") (.arr [.obj [("start", .int (-2)), ("length", .int 1)]]) =
        .ok [around] ∧
      around.mask code = "0x60000x6001".toList ∧ ¬ around.IsLocal code (around.mask code) ∧
      Region.readAll (.root "r") (.arr [.obj [("start", .int 0), ("length", .int (-1))]]) =
        .ok [reversed] ∧
      reversed.mask code = "0x0x6001".toList ∧ ¬ reversed.IsLocal code (reversed.mask code) := by
  intro back around reversed code
  have hback : back.mask code = "0x0001".toList := by decide
  have haround : around.mask code = "0x60000x6001".toList := by decide
  have hreversed : reversed.mask code = "0x0x6001".toList := by decide
  refine ⟨rfl, hback, fun h => ?_, rfl, haround, fun h => ?_, rfl, hreversed, fun h => ?_⟩
  · -- The third place is none of the region, which ends before the code begins.
    have hsame := h.same 2 fun hcovers => absurd hcovers.2 (by decide)
    rw [hback] at hsame
    exact absurd hsame (by decide)
  · have hlength := h.length_eq
    rw [haround] at hlength
    exact absurd hlength (by decide)
  · have hlength := h.length_eq
    rw [hreversed] at hlength
    exact absurd hlength (by decide)

end EvmLocator.Region
