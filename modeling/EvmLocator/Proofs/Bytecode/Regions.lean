import EvmLocator.Proofs.Bytecode.Hex
import EvmLocator.Proofs.Bytecode.Shortcut

/-!
# What the regions of a comparison say

The regions of a comparison are a set of places.  They come as a list, in the order in which a
document names them, and they may repeat and overlap one another; each is masked in the text that
the ones before it have left, and left out where a code ends before it does.  None of this shows in
the answer, because masking keeps the length of a code and a place is a zero however often it is
overwritten.

So it is also of no consequence whether the address of a library is left out of a code by a
placeholder in its text or by a region in the list: a code with placeholders and the same code with
digits in their place are masked to one text, if each window is among the regions.  The shortcut
could tell the two apart, since an observed code may equal one of them and not the other; it does
not, where it says no more than the long way would.

## Main results

* `compare_eq_of_same_places`: regions with the same places give the same answer.
* `Filled.linked_normalize`: what bringing a filled code into normal form keeps.
* `compare_filled`: placeholders and regions for them are interchangeable.
-/

namespace EvmLocator

namespace Region

/-- The bytes of a region, by the numbers that say where they are. -/
def place (r : Region) : Int × Int :=
  (r.start.value, r.length.value)

/-- The span of the bytes that two numbers say. -/
def spanOf (p : Int × Int) : Bytecode.Span :=
  ⟨(2 + 2 * p.1).toNat, (2 * p.2).toNat⟩

theorem map_span_eq (regions : List Region) :
    regions.map span = (regions.map place).map spanOf := by
  rw [List.map_map]
  rfl

theorem span_eq_windowAt {r : Region} {w : Nat} (hposition : r.position = w)
    (hwidth : r.width = Bytecode.placeholderLength) : r.span = Bytecode.windowAt w := by
  rw [span, hposition, hwidth]
  rfl

end Region

namespace Bytecode

/-! ## Regions as a set of places -/

/-- Lists of regions that say the same bytes, whatever their order and repetitions. -/
def SamePlaces (xs ys : List Region) : Prop :=
  ∀ p, p ∈ xs.map Region.place ↔ p ∈ ys.map Region.place

namespace SamePlaces

variable {xs ys : List Region}

theorem proper (h : SamePlaces xs ys) (hxs : ∀ r ∈ xs, r.Proper) : ∀ r ∈ ys, r.Proper := by
  intro r hr
  obtain ⟨q, hq, hplace⟩ := List.mem_map.mp ((h r.place).mpr (List.mem_map_of_mem hr))
  rw [Region.place, Region.place, Prod.mk.injEq] at hplace
  have hproper := hxs q hq
  rwa [Region.Proper, hplace.1, hplace.2] at hproper

theorem mem_spans_iff (h : SamePlaces xs ys) (s : Span) :
    s ∈ xs.map Region.span ↔ s ∈ ys.map Region.span := by
  rw [Region.map_span_eq, Region.map_span_eq, List.mem_map, List.mem_map]
  exact exists_congr fun p => and_congr_left fun _ => h p

/-- A code is masked alike by regions with the same places. -/
theorem exposed_eq (h : SamePlaces xs ys) (candidate : List Char) (ws : List Nat)
    (code : List Char) : exposed candidate ws xs code = exposed candidate ws ys code := by
  have hspans : ∀ s, s ∈ openSpans candidate ws xs ↔ s ∈ openSpans candidate ws ys := fun s => by
    simp only [openSpans, List.mem_append, h.mem_spans_iff]
  rw [exposed, exposed, overwrite_eq_of_mem_iff hspans]

end SamePlaces

/-- **The order and the repetition of regions do not matter.**  Regions with the same places give
the same answer. -/
theorem compare_eq_of_same_places {xs ys : List Region} (hxs : ∀ r ∈ xs, r.Proper)
    (h : SamePlaces xs ys) (observed candidate : List Char) :
    compare observed candidate xs = compare observed candidate ys := by
  have hmasked : compareMasked (normalize observed) (normalize candidate) xs =
      compareMasked (normalize observed) (normalize candidate) ys := by
    cases hws : windows (normalize candidate) with
    | error cut => rw [compareMasked, compareMasked, hws]
    | ok ws =>
        rw [compareMasked_eq hws hxs, compareMasked_eq hws (h.proper hxs)]
        simp only [h.exposed_eq]
  simp only [compare, hmasked]

/-- Overlapping regions of which one runs past the end of the candidate, in another order, with one
of them twice and one spelled by a truth value.  Both lists leave the last byte to compare. -/
theorem compare_eq_of_same_places_sample :
    let xs : List Region := [⟨.num 1, .num 2⟩, ⟨.num 0, .num 2⟩, ⟨.num 2, .num 9⟩]
    let ys : List Region :=
      [⟨.num 2, .num 9⟩, ⟨.num 0, .num 2⟩, ⟨.truth true, .num 2⟩, ⟨.num 0, .num 2⟩]
    (∀ r ∈ xs, r.Proper) ∧ SamePlaces xs ys ∧
      (compare "0xaabbcc44".toList "11223344".toList xs = .agrees ∧
        compare "0xaabbcc44".toList "11223344".toList ys = .agrees) ∧
      compare "0xaabbccdd".toList "11223344".toList xs = .differs ∧
        compare "0xaabbccdd".toList "11223344".toList ys = .differs := by
  intro xs ys
  have hproper : ∀ r ∈ xs, r.Proper := by decide
  have hsame : SamePlaces xs ys := by
    intro p
    simp only [xs, ys, Region.place, Integer.value, List.map_cons, List.map_nil, List.mem_cons,
      List.not_mem_nil, or_false, if_true]
    grind
  have hagrees : compare "0xaabbcc44".toList "11223344".toList xs = .agrees := by decide +kernel
  have hdiffers : compare "0xaabbccdd".toList "11223344".toList xs = .differs := by decide +kernel
  refine ⟨hproper, hsame, ⟨hagrees, ?_⟩, hdiffers, ?_⟩
  · rw [← compare_eq_of_same_places hproper hsame, hagrees]
  · rw [← compare_eq_of_same_places hproper hsame, hdiffers]

/-! ## Placeholders that are filled in -/

/-- A code in normal form with placeholders, whose windows begin at the places `ws`: no underscore
stands outside them. -/
structure Unlinked (code : List Char) (ws : List Nat) : Prop extends Layout code ws where
  normal : normalize code = code
  enclosed : ∀ i : Nat, code[i]? = some '_' → ∃ w ∈ ws, (windowAt w).Covers i

/-- A code whose windows, at the places `ws`, are filled in by digits of either case. -/
structure Filled (code : List Char) (ws : List Nat) (filled : List Char) : Prop where
  length_eq : filled.length = code.length
  same : ∀ i : Nat, (∀ w ∈ ws, ¬ (windowAt w).Covers i) → filled[i]? = code[i]?
  digits : ∀ w ∈ ws, ∀ i : Nat, (windowAt w).Covers i → ∀ c, filled[i]? = some c →
    (digitValue? c).isSome = true

/-- Codes that differ in windows only, the second of which has no underscores. -/
structure Linked (code : List Char) (ws : List Nat) (linked : List Char) : Prop where
  length_eq : linked.length = code.length
  same : ∀ i : Nat, (∀ w ∈ ws, ¬ (windowAt w).Covers i) → linked[i]? = code[i]?
  clear : ∀ i : Nat, linked[i]? ≠ some '_'

/-- Whether the bytes of every window are those of a region. -/
def Listed (ws : List Nat) (regions : List Region) : Prop :=
  ∀ w ∈ ws, ∃ r ∈ regions, r.position = w ∧ r.width = placeholderLength

/-! ### Digits -/

private theorem asciiLower_ne_underscore : ∀ n < 0x80,
    (digitValue? (Char.ofNat n)).isSome = true → Text.asciiLower (Char.ofNat n) ≠ '_' := by
  decide +kernel

theorem ascii_of_digit {c : Char} (h : (digitValue? c).isSome = true) : c.toNat < 0x80 := by
  obtain ⟨n, hn⟩ := Option.isSome_iff_exists.mp h
  have hle := (toNat_le_of_digitValue? hn).2
  omega

theorem asciiLower_ne_underscore_of_digit {c : Char} (h : (digitValue? c).isSome = true) :
    Text.asciiLower c ≠ '_' := by
  have hne := asciiLower_ne_underscore c.toNat (ascii_of_digit h)
  rw [Char.ofNat_toNat] at hne
  exact hne h

private theorem asciiLower_eq_self : ∀ n < 0x80,
    (Text.asciiLower (Char.ofNat n)).toNat < 97 →
      Text.asciiLower (Char.ofNat n) = Char.ofNat n := by
  decide +kernel

/-- No letter becomes a character before the small letters. -/
theorem eq_of_asciiLower_eq {c d : Char} (h : Text.asciiLower c = d) (hd : d.toNat < 97) :
    c = d := by
  by_cases hascii : c.toNat < 0x80
  · have hself := asciiLower_eq_self c.toNat hascii
    rw [Char.ofNat_toNat, h] at hself
    exact (hself hd).symm
  · rw [← h, Text.asciiLower, if_neg hascii]

theorem prefix_of_prefix_map {f : Char → Char} {s t : List Char}
    (hf : ∀ d ∈ s, ∀ c, f c = d → c = d) (h : s <+: t.map f) : s <+: t := by
  induction s generalizing t with
  | nil => exact List.nil_prefix
  | cons d s ih =>
      cases t with
      | nil => simp at h
      | cons c t =>
          rw [List.map_cons, List.cons_prefix_cons] at h
          obtain rfl := hf d (by simp) c h.1.symm
          exact List.cons_prefix_cons.mpr
            ⟨rfl, ih (fun e he => hf e (List.mem_cons_of_mem _ he)) h.2⟩

section

variable {code filled linked : List Char} {ws : List Nat} {regions : List Region}

namespace Unlinked

theorem begins (h : Unlinked code ws) : mark <+: code := by
  have hmark := mark_prefix_normalize code
  rwa [h.normal] at hmark

theorem isSmall_of_getElem? (h : Unlinked code ws) {i : Nat} {c : Char}
    (hc : code[i]? = some c) : Text.IsSmall c := by
  have hsmall := @isSmall_of_mem_normalize code
  rw [h.normal] at hsmall
  exact hsmall c (List.mem_of_getElem? hc)

/-- The windows of a code stand behind its mark. -/
theorem not_covers_of_lt (h : Unlinked code ws) {i : Nat} (hi : i < 2) :
    ∀ w ∈ ws, ¬ (windowAt w).Covers i := fun w hw hcov => by
  have hge := two_le_of_pairAt h.begins (h.opens w hw)
  have hle : w ≤ i := hcov.1
  omega

theorem windows_eq (h : Unlinked code ws) : windows code = .ok ws :=
  windows_eq_ok_iff.mpr
    (scan_of_layout h.toLayout (fun _ _ => Nat.zero_le _) fun i _ hi => h.enclosed i hi)

end Unlinked

/-! ### The normal form of a filled code -/

namespace Filled

/-- A character of a filled code is a digit of a window or one of the code. -/
theorem digit_or_same (h : Filled code ws filled) {i : Nat} {c : Char}
    (hc : filled[i]? = some c) :
    (digitValue? c).isSome = true ∨
      (∀ w ∈ ws, ¬ (windowAt w).Covers i) ∧ code[i]? = some c := by
  by_cases hcov : ∃ w ∈ ws, (windowAt w).Covers i
  · obtain ⟨w, hw, hi⟩ := hcov
    exact Or.inl (h.digits w hw i hi c hc)
  · have hout : ∀ w ∈ ws, ¬ (windowAt w).Covers i := fun w hw hi => hcov ⟨w, hw, hi⟩
    exact Or.inr ⟨hout, (h.same i hout).symm.trans hc⟩

theorem begins (h : Filled code ws filled) (hcode : Unlinked code ws) : mark <+: filled := by
  have hmark := hcode.begins
  rw [mark_prefix_iff] at hmark ⊢
  rwa [h.same 0 (hcode.not_covers_of_lt (by omega)),
    h.same 1 (hcode.not_covers_of_lt (by omega))]

/-- The normal form of a filled code is its small form, character by character. -/
theorem normalize_eq_map (h : Filled code ws filled) (hcode : Unlinked code ws) :
    normalize filled = filled.map Text.asciiLower := by
  have hlower : Text.lower filled = filled.map Text.asciiLower := by
    apply Text.lower_eq_map
    intro c hc
    obtain ⟨i, hi⟩ := List.mem_iff_getElem?.mp hc
    rcases h.digit_or_same hi with hdigit | ⟨-, hsame⟩
    · exact Or.inl (ascii_of_digit hdigit)
    · exact Or.inr (hcode.isSmall_of_getElem? hsame)
  obtain ⟨rest, hrest⟩ := h.begins hcode
  have hmark : mark <+: filled.map Text.asciiLower := by
    rw [← hrest, List.map_append]
    exact List.prefix_append _ _
  simp only [normalize, hlower]
  rw [if_pos (List.isPrefixOf_iff_prefix.mpr hmark)]

/-- The guard of a library has no letters, so a filled code has it if its normal form does. -/
theorem hasGuard_normalize (h : Filled code ws filled) (hcode : Unlinked code ws)
    (hguard : hasGuard filled = false) : hasGuard (normalize filled) = false := by
  have hdigits : ∀ d ∈ libraryGuard, d.toNat < 97 := by simp [libraryGuard]
  rw [Bool.eq_false_iff] at hguard ⊢
  intro hnormal
  apply hguard
  rw [hasGuard, List.isPrefixOf_iff_prefix, body] at hnormal ⊢
  rw [h.normalize_eq_map hcode, ← List.map_drop] at hnormal
  exact prefix_of_prefix_map (fun d hd c hc => eq_of_asciiLower_eq hc (hdigits d hd)) hnormal

/-- What bringing a filled code into normal form keeps: outside the windows nothing changes, and
inside them no digit becomes an underscore. -/
theorem linked_normalize (h : Filled code ws filled) (hcode : Unlinked code ws) :
    Linked code ws (normalize filled) := by
  rw [h.normalize_eq_map hcode]
  refine ⟨by rw [List.length_map, h.length_eq], fun i hout => ?_, fun i hi => ?_⟩
  · rw [List.getElem?_map, h.same i hout]
    cases hc : code[i]? with
    | none => rfl
    | some c => rw [Option.map_some, Text.asciiLower_of_isSmall (hcode.isSmall_of_getElem? hc)]
  · rw [List.getElem?_map, Option.map_eq_some_iff] at hi
    obtain ⟨c, hc, hunderscore⟩ := hi
    rcases h.digit_or_same hc with hdigit | ⟨hout, hsame⟩
    · exact asciiLower_ne_underscore_of_digit hdigit hunderscore
    · rw [Text.asciiLower_of_isSmall (hcode.isSmall_of_getElem? hsame)] at hunderscore
      rw [hunderscore] at hsame
      obtain ⟨w, hw, hcov⟩ := hcode.enclosed i hsame
      exact hout w hw hcov

end Filled

/-! ### Two descriptions of one mask -/

/-- Windows that are among the regions add nothing to them. -/
theorem overwrite_listed (h : Listed ws regions) (code : List Char) :
    overwrite (ws.map windowAt ++ regions.map Region.span) code =
      overwrite (regions.map Region.span) code := by
  apply overwrite_eq_of_mem_iff
  intro s
  rw [List.mem_append]
  refine ⟨fun hs => ?_, Or.inr⟩
  rcases hs with hs | hs
  · obtain ⟨w, hw, rfl⟩ := List.mem_map.mp hs
    obtain ⟨r, hr, hposition, hwidth⟩ := h w hw
    exact List.mem_map.mpr ⟨r, hr, Region.span_eq_windowAt hposition hwidth⟩
  · exact hs

/-- Compared with either code, an observed code is masked alike. -/
theorem exposed_listed (hlisted : Listed ws regions) (hguard : hasGuard code = false)
    (hguard' : hasGuard linked = false) (observed : List Char) :
    exposed linked [] regions observed = exposed code ws regions observed := by
  simp only [exposed, openSpans, hguard, hguard', Bool.false_eq_true, if_false, List.nil_append,
    List.map_nil, overwrite_listed hlisted]

namespace Linked

theorem windows_eq_nil (h : Linked code ws linked) : windows linked = .ok [] :=
  windows_eq_ok_iff.mpr (.done fun q _ hpair => h.clear q hpair.1)

/-- The regions mask the two codes alike. -/
theorem overwrite_eq (h : Linked code ws linked) (hcode : Unlinked code ws)
    (hlisted : Listed ws regions) :
    overwrite (regions.map Region.span) linked = overwrite (regions.map Region.span) code := by
  apply overwrite_eq_of_agree h.length_eq
  intro i _
  by_cases hcov : ∃ w ∈ ws, (windowAt w).Covers i
  · obtain ⟨w, hw, hi⟩ := hcov
    obtain ⟨r, hr, hposition, hwidth⟩ := hlisted w hw
    have hspan := Region.span_eq_windowAt hposition hwidth
    refine Or.inr ⟨r.span, List.mem_map_of_mem hr, ?_, ?_⟩
    · rw [hspan]
      exact hcode.within w hw
    · rwa [hspan]
  · exact Or.inl (h.same i fun w hw hi => hcov ⟨w, hw, hi⟩)

section

variable (h : Linked code ws linked) (hcode : Unlinked code ws) (hlisted : Listed ws regions)
  (hguard : hasGuard code = false) (hguard' : hasGuard linked = false)

include h hcode hlisted hguard hguard'

/-- The two codes are compared as one text. -/
theorem exposed_self_eq :
    exposed linked [] regions linked = exposed code ws regions code := by
  rw [exposed_listed hlisted hguard hguard']
  simp only [exposed, openSpans, hguard, Bool.false_eq_true, if_false, List.nil_append,
    overwrite_listed hlisted, h.overwrite_eq hcode hlisted]

variable (hregions : ∀ r ∈ regions, r.Proper)

include hregions

/-- The long way says the same of the two codes. -/
theorem compareMasked_eq_of_linked (observed : List Char) :
    compareMasked observed linked regions = compareMasked observed code regions := by
  rw [compareMasked_eq h.windows_eq_nil hregions, compareMasked_eq hcode.windows_eq hregions,
    h.exposed_self_eq hcode hlisted hguard hguard', exposed_listed hlisted hguard hguard']

/-- If something is left of the one code, something is left of the other, and the long way has both
agree with themselves. -/
theorem compareMasked_self_eq_of_linked (hleft : core ws regions code ≠ mark) :
    compareMasked code code regions = .agrees ∧
      compareMasked linked linked regions = .agrees := by
  rw [compareMasked_self, compareMasked_self, hcode.windows_eq, h.windows_eq_nil]
  refine ⟨if_neg hleft, if_neg ?_⟩
  rwa [core_eq_exposed hregions, h.exposed_self_eq hcode hlisted hguard hguard',
    ← core_eq_exposed hregions]

end

end Linked

/-- A code that is more than a mark is left with something if, masked, it is not a mark and a
trailer. -/
theorem core_ne_mark (hmark : mark <+: code) (hne : code ≠ mark)
    (hregions : ∀ r ∈ regions, r.Proper)
    (htrailer : ∀ t, IsTrailer t → maskRegions regions (maskWindows ws code) ≠ mark ++ t) :
    core ws regions code ≠ mark := by
  have hlength : (maskRegions regions (maskWindows ws code)).length = code.length := by
    rw [maskRegions_eq hregions, maskWindows_eq, length_overwrite, length_overwrite]
  rw [core]
  intro hcore
  rcases stripMetadata_cases (maskRegions regions (maskWindows ws code)) with
    ⟨t, ht, hs⟩ | ⟨p, t, -, -, hr⟩ | hs
  · rw [hcore] at hs
    exact htrailer t ht hs
  · rw [hcore] at hr
    have hlast := congrArg List.getLast? hr
    rw [List.getLast?_concat] at hlast
    exact absurd hlast (by decide)
  · have hlong := two_lt_length_of_ne_mark hmark hne
    rw [← hlength, ← hs, hcore] at hlong
    exact absurd hlong (by decide)

/-- A filled code is a mark alone only if the code is. -/
theorem Linked.eq_mark_iff (h : Linked code ws linked) (hcode : mark <+: code)
    (hlinked : mark <+: linked) : linked = mark ↔ code = mark := by
  have hiff : ∀ s, mark <+: s → (s = mark ↔ s.length = 2) := fun s hs =>
    ⟨fun heq => heq ▸ rfl, fun hlen => Decidable.byContradiction fun hne => by
      have := two_lt_length_of_ne_mark hs hne
      omega⟩
  rw [hiff _ hcode, hiff _ hlinked, h.length_eq]

/-- **Placeholders and regions are interchangeable.**  Where the windows of a code are among the
regions and something of it is left to compare, the code with its placeholders and the code with
digits in their place give the same answer. -/
theorem compare_filled (hcode : Unlinked code ws) (hfilled : Filled code ws filled)
    (hguard : hasGuard code = false) (hguard' : hasGuard filled = false)
    (hregions : ∀ r ∈ regions, r.Proper) (hlisted : Listed ws regions)
    (htrailer : ∀ t, IsTrailer t → maskRegions regions (maskWindows ws code) ≠ mark ++ t)
    (observed : List Char) :
    compare observed code regions = compare observed filled regions := by
  have hlinked := hfilled.linked_normalize hcode
  have hnormal := hfilled.hasGuard_normalize hcode hguard'
  have hmark := hlinked.eq_mark_iff hcode.begins (mark_prefix_normalize filled)
  by_cases hne : code = mark
  · have hsame : normalize filled = code := (hmark.mpr hne).trans hne.symm
    simp only [compare, hcode.normal, hsame]
  · have hleft := core_ne_mark hcode.begins hne hregions htrailer
    obtain ⟨hself, hself'⟩ :=
      hlinked.compareMasked_self_eq_of_linked hcode hlisted hguard hnormal hregions hleft
    rw [compare_eq_compareMasked (by rwa [hcode.normal]) (by rwa [hcode.normal]),
      compare_eq_compareMasked (fun h => hne (hmark.mp h)) hself', hcode.normal,
      hlinked.compareMasked_eq_of_linked hcode hlisted hguard hnormal hregions]

end

namespace Sample

def unlinkedCode : List Char :=
  "0x73__$".toList ++ List.replicate 34 'a' ++ "$__6000".toList

def linkedCode : List Char :=
  "0x73".toList ++ List.replicate 20 'a' ++ List.replicate 20 'B' ++ "6000".toList

/-- The code linked with another library. -/
def elsewhereCode : List Char :=
  "0x73".toList ++ List.replicate 40 'c' ++ "6000".toList

/-- A code that ends otherwise. -/
def otherCode : List Char :=
  "0x73".toList ++ List.replicate 40 'c' ++ "6001".toList

def linkRegions : List Region :=
  [⟨.num 1, .num 20⟩, ⟨.num 20, .num 9⟩]

end Sample

/-- A placeholder, the same code with digits of both cases in its place, and a region that runs past
the end.  A code with other digits in that place matches both, and one with another ending neither. -/
theorem compare_filled_sample :
    Unlinked Sample.unlinkedCode [4] ∧ Filled Sample.unlinkedCode [4] Sample.linkedCode ∧
      hasGuard Sample.unlinkedCode = false ∧ hasGuard Sample.linkedCode = false ∧
      (∀ r ∈ Sample.linkRegions, r.Proper) ∧ Listed [4] Sample.linkRegions ∧
      (∀ t, IsTrailer t → maskRegions Sample.linkRegions
        (maskWindows [4] Sample.unlinkedCode) ≠ mark ++ t) ∧
      (compare Sample.elsewhereCode Sample.unlinkedCode Sample.linkRegions = .agrees ∧
        compare Sample.elsewhereCode Sample.linkedCode Sample.linkRegions = .agrees) ∧
      compare Sample.otherCode Sample.unlinkedCode Sample.linkRegions = .differs ∧
        compare Sample.otherCode Sample.linkedCode Sample.linkRegions = .differs := by
  have hcode : Unlinked Sample.unlinkedCode [4] := by
    refine { opens := ?_, within := ?_, disjoint := ?_, normal := ?_, enclosed := ?_ }
    · decide +kernel
    · decide +kernel
    · exact List.pairwise_singleton _ _
    · decide +kernel
    · have hunderscores : ∀ i < 48, Sample.unlinkedCode[i]? = some '_' →
          ∃ w ∈ [4], (windowAt w).Covers i := by decide +kernel
      exact fun i hi => hunderscores i (List.getElem?_eq_some_iff.mp hi).1 hi
  have hfilled : Filled Sample.unlinkedCode [4] Sample.linkedCode := by
    refine { length_eq := ?_, same := fun i hi => ?_, digits := ?_ }
    · decide +kernel
    · have hsame : ∀ i < 48, (∀ w ∈ [4], ¬ (windowAt w).Covers i) →
          Sample.linkedCode[i]? = Sample.unlinkedCode[i]? := by decide +kernel
      rcases Nat.lt_or_ge i 48 with hlt | hge
      · exact hsame i hlt hi
      · rw [List.getElem?_eq_none hge, List.getElem?_eq_none hge]
    · have hdigits : ∀ i < 44, 4 ≤ i →
          (Sample.linkedCode[i]?.all fun c => (digitValue? c).isSome) = true := by decide +kernel
      intro w hw i hi c hc
      rw [List.mem_singleton] at hw
      subst hw
      have hall := hdigits i hi.2 hi.1
      rwa [hc] at hall
  have hguard : hasGuard Sample.unlinkedCode = false := by decide +kernel
  have hguard' : hasGuard Sample.linkedCode = false := by decide +kernel
  have hregions : ∀ r ∈ Sample.linkRegions, r.Proper := by decide
  have hlisted : Listed [4] Sample.linkRegions := by
    unfold Listed
    decide
  have htrailer : ∀ t, IsTrailer t → maskRegions Sample.linkRegions
      (maskWindows [4] Sample.unlinkedCode) ≠ mark ++ t := by
    intro t ht heq
    have hlength := congrArg List.length heq
    have hlong := (length_of_isTrailer ht).1
    have hshort : (maskRegions Sample.linkRegions
      (maskWindows [4] Sample.unlinkedCode)).length = 48 := by decide +kernel
    rw [hshort, List.length_append] at hlength
    omega
  have hsame := fun observed =>
    compare_filled hcode hfilled hguard hguard' hregions hlisted htrailer observed
  have hagrees : compare Sample.elsewhereCode Sample.unlinkedCode Sample.linkRegions = .agrees := by
    decide +kernel
  have hdiffers : compare Sample.otherCode Sample.unlinkedCode Sample.linkRegions = .differs := by
    decide +kernel
  refine ⟨hcode, hfilled, hguard, hguard', hregions, hlisted, htrailer, ⟨hagrees, ?_⟩, hdiffers, ?_⟩
  · rw [← hsame, hagrees]
  · rw [← hsame, hdiffers]

end Bytecode

end EvmLocator
