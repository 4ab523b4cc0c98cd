import EvmLocator.Bytecode.Compare

/-!
# Masked codes, place by place

The windows of placeholders, the regions of a catalog and the address in a library guard are all
overwritten in the same manner.  Here each of them is a `Span` of places and masking is
`overwrite`, one span after another, which turns every question about masking into a question
about single places: a place is a zero if some span covers it that the code reaches, and otherwise
it holds what it held.

A span that runs past the end of a code is left out for that code alone, so two codes of different
length may be masked at different places.

## Main results

* `getElem?_overwrite`: the character at a place of a masked code.
* `overwrite_eq_of_mem_iff`: neither the order nor the repetition of spans plays a role.
* `overwrite_append`: what follows the masked part of a code plays no role.
* `overwrite_eq_of_agree`: codes that agree outside the spans that they reach are masked to one code.
* `compareMasked_eq`: the comparison of two codes masks both by one list of spans.
-/

namespace EvmLocator.Bytecode

/-- The `width` places of a code from the place `start` on. -/
structure Span where
  start : Nat
  width : Nat

namespace Span

/-- Whether the place `i` is one of the span. -/
def Covers (s : Span) (i : Nat) : Prop :=
  s.start ≤ i ∧ i < s.start + s.width

/-- Whether a code of `n` characters reaches the end of the span. -/
def Within (s : Span) (n : Nat) : Prop :=
  s.start + s.width ≤ n

instance (s : Span) (i : Nat) : Decidable (s.Covers i) := by
  unfold Covers
  infer_instance

instance (s : Span) (n : Nat) : Decidable (s.Within n) := by
  unfold Within
  infer_instance

end Span

/-- A code with spans overwritten by zeros, one after another. -/
def overwrite (spans : List Span) (code : List Char) : List Char :=
  spans.foldl (fun c s => zeroRegion c s.start s.width) code

/-! ## One place -/

theorem getElem?_zeroRegion (code : List Char) (s : Span) (i : Nat) :
    (zeroRegion code s.start s.width)[i]? =
      if s.Within code.length ∧ s.Covers i then some '0' else code[i]? := by
  unfold Span.Within Span.Covers
  rw [zeroRegion_of_nat]
  by_cases hout : code.length < s.start + s.width
  · rw [if_pos hout, if_neg (by omega)]
  · have htake : (code.take s.start).length = s.start := by
      rw [List.length_take]
      omega
    rw [if_neg hout, List.append_assoc]
    rcases Nat.lt_or_ge i s.start with hlt | hge
    · rw [if_neg (by omega), List.getElem?_append_left (by omega), List.getElem?_take_of_lt hlt]
    · rw [List.getElem?_append_right (by omega), htake]
      by_cases hin : i < s.start + s.width
      · rw [if_pos (by omega), List.getElem?_append_left (by rw [List.length_replicate]; omega),
          List.getElem?_replicate, if_pos (by omega)]
      · rw [if_neg (by omega), List.getElem?_append_right (by rw [List.length_replicate]; omega),
          List.length_replicate, List.getElem?_drop]
        congr 1
        omega

@[simp] theorem length_overwrite (spans : List Span) (code : List Char) :
    (overwrite spans code).length = code.length := by
  induction spans generalizing code with
  | nil => rfl
  | cons s spans ih =>
      rw [overwrite, List.foldl_cons, ← overwrite, ih, length_zeroRegion_of_nat]

theorem getElem?_overwrite (spans : List Span) (code : List Char) (i : Nat) :
    (overwrite spans code)[i]? =
      if ∃ s ∈ spans, s.Within code.length ∧ s.Covers i then some '0' else code[i]? := by
  induction spans generalizing code with
  | nil => simp [overwrite]
  | cons s spans ih =>
      rw [overwrite, List.foldl_cons, ← overwrite, ih, getElem?_zeroRegion,
        length_zeroRegion_of_nat]
      simp only [List.mem_cons, exists_eq_or_imp]
      by_cases hs : s.Within code.length ∧ s.Covers i
      · rw [if_pos hs, ite_self, if_pos (Or.inl hs)]
      · simp only [hs, false_or, if_false]

/-- A place that no span covers is left alone. -/
theorem getElem?_overwrite_of_not_covers {spans : List Span} {i : Nat}
    (h : ∀ s ∈ spans, ¬ s.Covers i) (code : List Char) :
    (overwrite spans code)[i]? = code[i]? := by
  rw [getElem?_overwrite, if_neg]
  rintro ⟨s, hs, -, hi⟩
  exact h s hs hi

/-- Masking keeps the length of a code, so which spans it reaches is the same at every step, and a
place that was overwritten is a zero however often it is: spans matter as a set. -/
theorem overwrite_eq_of_mem_iff {xs ys : List Span} (h : ∀ s, s ∈ xs ↔ s ∈ ys)
    (code : List Char) : overwrite xs code = overwrite ys code := by
  apply List.ext_getElem?
  intro i
  simp only [getElem?_overwrite, h]

/-! ## Two codes -/

theorem overwrite_spans_append (xs ys : List Span) (code : List Char) :
    overwrite (xs ++ ys) code = overwrite ys (overwrite xs code) :=
  List.foldl_append

/-- Behind spans that a code reaches, any text may follow. -/
theorem overwrite_append {spans : List Span} {code : List Char}
    (h : ∀ s ∈ spans, s.Within code.length) (rest : List Char) :
    overwrite spans (code ++ rest) = overwrite spans code ++ rest := by
  apply List.ext_getElem?
  intro i
  have hcovers : ∀ s ∈ spans, s.Covers i → i < code.length := by
    intro s hs hi
    have hw := h s hs
    unfold Span.Within at hw
    unfold Span.Covers at hi
    omega
  have hwithin : ∀ s ∈ spans, s.Within (code ++ rest).length := by
    intro s hs
    have hw := h s hs
    unfold Span.Within at hw ⊢
    rw [List.length_append]
    omega
  rcases Nat.lt_or_ge i code.length with hlt | hge
  · rw [List.getElem?_append_left (by rw [length_overwrite]; exact hlt), getElem?_overwrite,
      getElem?_overwrite, List.getElem?_append_left hlt]
    congr 1
    rw [eq_iff_iff]
    exact exists_congr fun s => and_congr_right fun hs => and_congr_left fun _ =>
      iff_of_true (hwithin s hs) (h s hs)
  · have hnone : ∀ s ∈ spans, ¬ s.Covers i := fun s hs hi => by
      have := hcovers s hs hi
      omega
    rw [getElem?_overwrite_of_not_covers hnone, List.getElem?_append_right hge,
      List.getElem?_append_right (by rw [length_overwrite]; exact hge), length_overwrite]

/-- Codes of one length that agree outside the spans that they reach are masked to one code. -/
theorem overwrite_eq_of_agree {spans : List Span} {a b : List Char} (hlen : a.length = b.length)
    (hagree : ∀ i < b.length, a[i]? = b[i]? ∨ ∃ s ∈ spans, s.Within b.length ∧ s.Covers i) :
    overwrite spans a = overwrite spans b := by
  apply List.ext_getElem?
  intro i
  rw [getElem?_overwrite, getElem?_overwrite, hlen]
  split
  · rfl
  · next hnot =>
      rcases Nat.lt_or_ge i b.length with hlt | hge
      · exact (hagree i hlt).resolve_right hnot
      · rw [List.getElem?_eq_none (by omega), List.getElem?_eq_none (by omega)]

/-- Codes of one length that reach all spans and agree outside them are masked to one code. -/
theorem overwrite_congr {spans : List Span} {a b : List Char} (hlen : a.length = b.length)
    (hspans : ∀ s ∈ spans, s.Within b.length)
    (hagree : ∀ i < b.length, a[i]? = b[i]? ∨ ∃ s ∈ spans, s.Covers i) :
    overwrite spans a = overwrite spans b :=
  overwrite_eq_of_agree hlen fun i hi => (hagree i hi).imp_right fun ⟨s, hs, hcov⟩ =>
    ⟨s, hs, hspans s hs, hcov⟩

/-! ## The spans of a comparison -/

/-- The window of a placeholder. -/
def windowAt (pos : Nat) : Span := ⟨pos, placeholderLength⟩

/-- The address in the library guard at the start of a code. -/
def guardSpan : Span := ⟨4, 40⟩

end EvmLocator.Bytecode

namespace EvmLocator.Region

/-- Whether a region starts inside the code and has a length. -/
def Proper (r : Region) : Prop :=
  0 ≤ r.start.value ∧ 0 ≤ r.length.value

instance (r : Region) : Decidable r.Proper := by
  unfold Proper
  infer_instance

/-- The places of a region in a code in normal form. -/
def span (r : Region) : Bytecode.Span := ⟨r.position.toNat, r.width.toNat⟩

theorem span_start {r : Region} (h : r.Proper) : (r.span.start : Int) = r.position := by
  have := h.1
  simp only [span, position]
  omega

theorem span_width {r : Region} (h : r.Proper) : (r.span.width : Int) = r.width := by
  have := h.2
  simp only [span, width]
  omega

end EvmLocator.Region

namespace EvmLocator.Bytecode

/-- The spans that a comparison with a candidate masks, where `ws` are its placeholders. -/
def openSpans (candidate : List Char) (ws : List Nat) (regions : List Region) : List Span :=
  (if hasGuard candidate then [guardSpan] else []) ++
    (ws.map windowAt ++ regions.map Region.span)

/-- A code as the comparison with a candidate sees it: masked, and without its trailer. -/
def exposed (candidate : List Char) (ws : List Nat) (regions : List Region) (code : List Char) :
    List Char :=
  stripMetadata (overwrite (openSpans candidate ws regions) code)

theorem maskWindows_eq (ws : List Nat) (code : List Char) :
    maskWindows ws code = overwrite (ws.map windowAt) code := by
  rw [maskWindows, overwrite, List.foldl_map]
  rfl

theorem maskRegions_eq {regions : List Region} (h : ∀ r ∈ regions, r.Proper) (code : List Char) :
    maskRegions regions code = overwrite (regions.map Region.span) code := by
  induction regions generalizing code with
  | nil => rfl
  | cons r regions ih =>
      have hr := h r (by simp)
      rw [maskRegions, List.foldl_cons, ← maskRegions, ih fun q hq => h q (by simp [hq]),
        ← Region.span_start hr, ← Region.span_width hr]
      rfl

/-- The address that the guard of a candidate leaves out is written as zeros already. -/
theorem overwrite_guardSpan_of_hasGuard {code : List Char} (h : hasGuard code = true) :
    overwrite [guardSpan] code = code := by
  have hzero : ∀ j < 42, 2 ≤ j → libraryGuard[j]? = some '0' := by decide
  obtain ⟨rest, hrest⟩ := List.isPrefixOf_iff_prefix.mp h
  have hplace : ∀ i, 4 ≤ i → i < 44 → code[i]? = some '0' := by
    intro i hge hlt
    have hbody : code[i]? = (body code)[i - 2]? := by
      rw [body, List.getElem?_drop]
      congr 1
      omega
    have hlen : libraryGuard.length = 46 := by decide
    rw [hbody, ← hrest, List.getElem?_append_left (by omega)]
    exact hzero (i - 2) (by omega) (by omega)
  apply List.ext_getElem?
  intro i
  rw [getElem?_overwrite]
  split
  · next hcov =>
      obtain ⟨s, hs, -, hi⟩ := hcov
      rw [List.mem_singleton] at hs
      subst hs
      exact (hplace i hi.1 hi.2).symm
  · rfl

/-- Masking the guard, the windows and the regions is masking one list of spans. -/
theorem overwrite_openSpans {regions : List Region} (h : ∀ r ∈ regions, r.Proper)
    (candidate : List Char) (ws : List Nat) (code : List Char) :
    overwrite (openSpans candidate ws regions) code =
      maskRegions regions
        (maskWindows ws (if hasGuard candidate then maskGuard code else code)) := by
  rw [openSpans, overwrite_spans_append, overwrite_spans_append, maskWindows_eq, maskRegions_eq h]
  split <;> rfl

/-- For the guard of a candidate, the candidate itself is masked already. -/
theorem guarded_self (candidate : List Char) :
    (if hasGuard candidate then maskGuard candidate else candidate) = candidate := by
  split
  · next hguard => exact overwrite_guardSpan_of_hasGuard hguard
  · rfl

theorem overwrite_openSpans_self {regions : List Region} (h : ∀ r ∈ regions, r.Proper)
    (candidate : List Char) (ws : List Nat) :
    overwrite (openSpans candidate ws regions) candidate =
      maskRegions regions (maskWindows ws candidate) := by
  rw [overwrite_openSpans h, guarded_self]

/-- What is compared of a candidate. -/
theorem core_eq_exposed {regions : List Region} (h : ∀ r ∈ regions, r.Proper) (ws : List Nat)
    (candidate : List Char) :
    core ws regions candidate = exposed candidate ws regions candidate := by
  rw [core, exposed, overwrite_openSpans_self h]

/-- The comparison masks both codes by one list of spans. -/
theorem compareMasked_eq {candidate : List Char} {ws : List Nat} {regions : List Region}
    (hws : windows candidate = .ok ws) (h : ∀ r ∈ regions, r.Proper) (observed : List Char) :
    compareMasked observed candidate regions =
      if exposed candidate ws regions candidate = mark then .differs
      else if (exposed candidate ws regions candidate).isPrefixOf
          (exposed candidate ws regions observed) then .agrees
      else .differs := by
  rw [exposed, exposed, overwrite_openSpans_self h, overwrite_openSpans h, compareMasked, hws]
  rfl

end EvmLocator.Bytecode
