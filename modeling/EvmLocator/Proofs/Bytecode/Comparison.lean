import EvmLocator.Proofs.Bytecode.Normal
import EvmLocator.Proofs.Bytecode.Placeholder
import EvmLocator.Proofs.Bytecode.Trailer

/-!
# What a match says

A match lets two codes differ in places whose value is not known when a contract is compiled, and
in nothing else.  `Open` names those places.  The comparison masks and strips the two codes each on
its own, and they may have different lengths, so the question is whether the two stay aligned:
masking keeps the length, stripping takes from the end only, and a candidate without a line end is
a prefix of what masking made of the observed code, not of a text that stripping put together.

## Main results

* `isMatch_compare_iff`: the comparison as one condition on two masked codes.
* `prefix_of_prefix_stripMetadata`: stripping the observed code does not move what a candidate
  is compared with.
* `agrees_outside_open_places`: a match bounds where the codes may differ, place by place, and
  what of the candidate is left out of the comparison.
-/

namespace EvmLocator.Bytecode

/-- The places of a candidate whose characters are not compared. -/
inductive Open (candidate : List Char) (regions : List Region) (i : Nat) : Prop where
  | placeholder {ws : List Nat} {w : Nat} (scan : Scan candidate 0 ws) (mem : w ∈ ws)
      (from_start : w ≤ i) (before_end : i < w + 40)
  | region {r : Region} (mem : r ∈ regions) (from_start : r.position ≤ i)
      (before_end : (i : Int) < r.position + r.width)
  | guard (begins : hasGuard candidate = true) (from_start : 4 ≤ i) (before_end : i < 44)

/-! ## The comparison as one condition -/

/-- A comparison reports a placeholder exactly if the candidate cuts it short. -/
theorem compareMasked_eq_truncated_iff {observed candidate : List Char} {regions : List Region}
    {offset : Nat} :
    compareMasked observed candidate regions = .truncatedPlaceholder offset ↔
      CutShort candidate 0 offset := by
  rw [← windows_eq_error_iff, compareMasked]
  cases windows candidate with
  | error cut => simp
  | ok ws =>
      generalize (if hasGuard candidate then maskGuard observed else observed) = masked
      refine iff_of_false (fun h => ?_) (fun h => by cases h)
      simp only at h
      split at h
      · cases h
      · split at h <;> cases h

theorem isMatch_compareMasked_iff {observed candidate : List Char} {regions : List Region}
    (hregions : ∀ r ∈ regions, r.Proper) :
    (compareMasked observed candidate regions).isMatch = true ↔
      ∃ ws, Scan candidate 0 ws ∧ exposed candidate ws regions candidate ≠ mark ∧
        exposed candidate ws regions candidate <+: exposed candidate ws regions observed := by
  cases hws : windows candidate with
  | error cut =>
      have hnone : ∀ ws, ¬ Scan candidate 0 ws := fun ws hscan => by
        rw [← windows_eq_ok_iff, hws] at hscan
        cases hscan
      constructor
      · intro h
        simp [compareMasked, hws, Verdict.isMatch] at h
      · rintro ⟨ws, hscan, -⟩
        exact absurd hscan (hnone ws)
  | ok ws =>
      have hscan := windows_eq_ok_iff.mp hws
      rw [compareMasked_eq hws hregions]
      constructor
      · intro h
        refine ⟨ws, hscan, ?_⟩
        split at h
        · cases h
        · next hmark =>
            split at h
            · next hprefix => exact ⟨hmark, List.isPrefixOf_iff_prefix.mp hprefix⟩
            · cases h
      · rintro ⟨ws', hscan', hmark, hprefix⟩
        obtain rfl := hscan'.unique hscan
        rw [if_neg hmark, if_pos (List.isPrefixOf_iff_prefix.mpr hprefix)]
        rfl

/-- Codes match if they are equal, or if the candidate as it is compared begins the observed
code. -/
theorem isMatch_compare_iff {observed candidate : List Char} {regions : List Region}
    (hregions : ∀ r ∈ regions, r.Proper) :
    (compare observed candidate regions).isMatch = true ↔
      normalize candidate ≠ mark ∧ (normalize observed = normalize candidate ∨
        ∃ ws, Scan (normalize candidate) 0 ws ∧
          exposed (normalize candidate) ws regions (normalize candidate) ≠ mark ∧
          exposed (normalize candidate) ws regions (normalize candidate) <+:
            exposed (normalize candidate) ws regions (normalize observed)) := by
  rw [← isMatch_compareMasked_iff hregions]
  simp only [compare]
  by_cases hmark : normalize candidate = mark
  · simp [hmark, Verdict.isMatch]
  · by_cases heq : normalize observed = normalize candidate
    · simp [hmark, heq, Verdict.isMatch]
    · simp [hmark, heq]

/-! ## Alignment -/

theorem getElem?_eq_of_prefix {a s : List Char} (h : a <+: s) {i : Nat} (hi : i < a.length) :
    s[i]? = a[i]? := by
  rw [List.prefix_iff_getElem?.mp h i hi, List.getElem?_eq_getElem hi]

/-- What stripping leaves of a text is the text's beginning, but for a line end that it may keep. -/
theorem prefix_of_prefix_stripMetadata {a s : List Char} (h : a <+: stripMetadata s)
    (ha : '\n' ∉ a) : a <+: s := by
  rcases stripMetadata_cases s with ⟨t, -, hs⟩ | ⟨p, t, -, hs, hr⟩ | hs
  · rw [hs]
    exact h.trans (List.prefix_append _ _)
  · rw [hr, List.prefix_concat_iff] at h
    rcases h with h | h
    · exact absurd (by rw [h]; simp) ha
    · rw [hs, List.append_assoc]
      exact h.trans (List.prefix_append _ _)
  · rwa [hs] at h

/-- Masking brings in zeros only. -/
theorem mem_overwrite {spans : List Span} {code : List Char} {c : Char}
    (h : c ∈ overwrite spans code) : c = '0' ∨ c ∈ code := by
  obtain ⟨i, hi⟩ := List.mem_iff_getElem?.mp h
  rw [getElem?_overwrite] at hi
  split at hi
  · exact Or.inl (Option.some.inj hi).symm
  · exact Or.inr (List.mem_of_getElem? hi)

theorem newline_notMem_overwrite {spans : List Span} {code : List Char} (h : '\n' ∉ code) :
    '\n' ∉ overwrite spans code := by
  intro hmem
  rcases mem_overwrite hmem with hzero | hcode
  · exact absurd hzero (by decide)
  · exact h hcode

/-- A place that a span of the comparison covers is open. -/
theorem open_of_covers {candidate : List Char} {ws : List Nat} {regions : List Region}
    (hscan : Scan candidate 0 ws) (hregions : ∀ r ∈ regions, r.Proper) {s : Span} {i : Nat}
    (hs : s ∈ openSpans candidate ws regions) (hi : s.Covers i) : Open candidate regions i := by
  rw [openSpans, List.mem_append, List.mem_append, List.mem_map, List.mem_map] at hs
  rcases hs with hs | ⟨w, hw, rfl⟩ | ⟨r, hr, rfl⟩
  · split at hs
    · next hguard =>
        rw [List.mem_singleton] at hs
        subst hs
        exact .guard hguard hi.1 hi.2
    · cases hs
  · exact .placeholder hscan hw hi.1 hi.2
  · have hstart := Region.span_start (hregions r hr)
    have hwidth := Region.span_width (hregions r hr)
    obtain ⟨hge, hlt⟩ := hi
    exact .region hr (by omega) (by omega)

/-- The open places are those that the spans of the comparison cover. -/
theorem open_iff_covers {candidate : List Char} {ws : List Nat} {regions : List Region}
    (hscan : Scan candidate 0 ws) (hregions : ∀ r ∈ regions, r.Proper) {i : Nat} :
    Open candidate regions i ↔ ∃ s ∈ openSpans candidate ws regions, s.Covers i := by
  refine ⟨fun h => ?_, fun ⟨s, hs, hi⟩ => open_of_covers hscan hregions hs hi⟩
  simp only [openSpans, List.mem_append, List.mem_map]
  cases h with
  | @placeholder ws' w scan mem from_start before_end =>
      obtain rfl := scan.unique hscan
      exact ⟨windowAt w, Or.inr (Or.inl ⟨w, mem, rfl⟩), from_start, before_end⟩
  | @region r mem from_start before_end =>
      have hstart := Region.span_start (hregions r mem)
      have hwidth := Region.span_width (hregions r mem)
      exact ⟨r.span, Or.inr (Or.inr ⟨r, mem, rfl⟩), by omega, by omega⟩
  | guard begins from_start before_end =>
      refine ⟨guardSpan, Or.inl ?_, from_start, before_end⟩
      rw [if_pos begins]
      exact List.mem_singleton_self _

/-- Masking leaves a place alone that is not open. -/
theorem getElem?_overwrite_openSpans {candidate : List Char} {ws : List Nat}
    {regions : List Region} (hscan : Scan candidate 0 ws) (hregions : ∀ r ∈ regions, r.Proper)
    {i : Nat} (hi : ¬ Open candidate regions i) (code : List Char) :
    (overwrite (openSpans candidate ws regions) code)[i]? = code[i]? :=
  getElem?_overwrite_of_not_covers (fun _ hs hcov => hi (open_of_covers hscan hregions hs hcov))
    code

/-- Where a code as it is compared begins another masked code, the two agree outside the open
places. -/
theorem getElem?_eq_exposed {candidate : List Char} {ws : List Nat} {regions : List Region}
    (hscan : Scan candidate 0 ws) (hregions : ∀ r ∈ regions, r.Proper) {a code : List Char}
    (h : a <+: exposed candidate ws regions code) (ha : '\n' ∉ a) {i : Nat} (hi : i < a.length)
    (hopen : ¬ Open candidate regions i) : code[i]? = a[i]? := by
  have hprefix := prefix_of_prefix_stripMetadata h ha
  rw [← getElem?_overwrite_openSpans hscan hregions hopen code]
  exact getElem?_eq_of_prefix hprefix hi

theorem length_le_of_prefix_exposed {candidate : List Char} {ws : List Nat}
    {regions : List Region} {a code : List Char} (h : a <+: exposed candidate ws regions code)
    (ha : '\n' ∉ a) : a.length ≤ code.length := by
  have hle := (prefix_of_prefix_stripMetadata h ha).length_le
  rwa [length_overwrite] at hle

/-! ## The mark -/

theorem mark_prefix_iff {s : List Char} : mark <+: s ↔ s[0]? = some '0' ∧ s[1]? = some 'x' := by
  match s with
  | [] => simp [mark]
  | [a] => simp [mark]
  | a :: b :: rest => simp [mark, eq_comm]

/-- A pair of underscores stands behind the mark. -/
theorem two_le_of_pairAt {code : List Char} {w : Nat} (hmark : mark <+: code)
    (h : PairAt code w) : 2 ≤ w := by
  obtain ⟨h0, h1⟩ := mark_prefix_iff.mp hmark
  have hopens := h.1
  refine Nat.not_lt.mp fun hlt => ?_
  rcases (by omega : w = 0 ∨ w = 1) with rfl | rfl
  · rw [h0] at hopens
    exact absurd hopens (by decide)
  · rw [h1] at hopens
    exact absurd hopens (by decide)

/-- No open place touches the mark. -/
theorem two_le_of_open {candidate : List Char} {regions : List Region} {i : Nat}
    (hmark : mark <+: candidate) (hregions : ∀ r ∈ regions, r.Proper)
    (h : Open candidate regions i) : 2 ≤ i := by
  cases h with
  | @placeholder ws w scan mem from_start _ =>
      exact Nat.le_trans (two_le_of_pairAt hmark (scan.opens_of_mem w mem)) from_start
  | region mem from_start _ =>
      have := (hregions _ mem).1
      unfold Region.position at from_start
      omega
  | guard _ from_start _ => omega

theorem mark_prefix_exposed {candidate : List Char} {ws : List Nat} {regions : List Region}
    (hmark : mark <+: candidate) (hscan : Scan candidate 0 ws)
    (hregions : ∀ r ∈ regions, r.Proper) {code : List Char} (hcode : mark <+: code) :
    mark <+: exposed candidate ws regions code := by
  apply mark_prefix_stripMetadata
  obtain ⟨h0, h1⟩ := mark_prefix_iff.mp hcode
  have hclosed : ∀ i < 2, ¬ Open candidate regions i := fun i hi hopen => by
    have := two_le_of_open hmark hregions hopen
    omega
  rw [mark_prefix_iff, getElem?_overwrite_openSpans hscan hregions (hclosed 0 (by omega)),
    getElem?_overwrite_openSpans hscan hregions (hclosed 1 (by omega))]
  exact ⟨h0, h1⟩

theorem two_lt_length_of_ne_mark {s : List Char} (h : mark <+: s) (hne : s ≠ mark) :
    2 < s.length := by
  obtain ⟨rest, rfl⟩ := h
  have hrest : rest ≠ [] := fun h0 => hne (by rw [h0, List.append_nil])
  have hpos := List.length_pos_iff.mpr hrest
  rw [List.length_append]
  have hlen : mark.length = 2 := rfl
  omega

/-! ## The main result -/

theorem newline_notMem_exposed {candidate : List Char} (hline : '\n' ∉ candidate) (ws : List Nat)
    (regions : List Region) : '\n' ∉ exposed candidate ws regions candidate := by
  have hmasked : '\n' ∉ overwrite (openSpans candidate ws regions) candidate :=
    newline_notMem_overwrite hline
  rcases stripMetadata_cases_of_notMem hmasked with ⟨t, -, hs⟩ | hs
  · intro hmem
    rw [hs, List.mem_append] at hmasked
    exact hmasked (Or.inl hmem)
  · rw [exposed, hs]
    exact hmasked

/-- What stripping takes from a masked candidate without line ends is nothing or one trailer. -/
theorem drop_length_exposed {candidate : List Char} (hline : '\n' ∉ candidate) (ws : List Nat)
    (regions : List Region) :
    candidate.drop (exposed candidate ws regions candidate).length = [] ∨
      IsTrailer ((overwrite (openSpans candidate ws regions) candidate).drop
        (exposed candidate ws regions candidate).length) := by
  have hmasked : '\n' ∉ overwrite (openSpans candidate ws regions) candidate :=
    newline_notMem_overwrite hline
  rcases stripMetadata_cases_of_notMem hmasked with ⟨t, ht, hs⟩ | hs
  · right
    rw [← exposed] at hs
    rw [congrArg (List.drop _) hs, List.drop_left]
    exact ht
  · left
    rw [exposed, hs, length_overwrite, List.drop_length]

/-- **A match has no false positives.**  Up to a place behind which the candidate has at most a
trailer, codes that match differ in open places only. -/
theorem agrees_outside_open_places {observed candidate : List Char} {regions : List Region}
    (hline : '\n' ∉ candidate) (hregions : ∀ r ∈ regions, r.Proper)
    (hmatch : (compare observed candidate regions).isMatch = true) :
    ∃ n, 2 < n ∧ n ≤ (normalize candidate).length ∧ n ≤ (normalize observed).length ∧
      ((normalize candidate).drop n = [] ∨
        ∃ ws, Scan (normalize candidate) 0 ws ∧
          IsTrailer ((maskRegions regions (maskWindows ws (normalize candidate))).drop n)) ∧
      ∀ i < n, (normalize observed)[i]? = (normalize candidate)[i]? ∨
        Open (normalize candidate) regions i := by
  have hcandidate := mark_prefix_normalize candidate
  have hline' := newline_notMem_normalize hline
  obtain ⟨hne, heq | ⟨ws, hscan, hcore, hprefix⟩⟩ := (isMatch_compare_iff hregions).mp hmatch
  · refine ⟨(normalize candidate).length, two_lt_length_of_ne_mark hcandidate hne, Nat.le_refl _,
      Nat.le_of_eq (congrArg List.length heq.symm), Or.inl List.drop_length,
      fun i _ => Or.inl ?_⟩
    rw [heq]
  · have hnl := newline_notMem_exposed hline' ws regions
    refine ⟨(exposed (normalize candidate) ws regions (normalize candidate)).length, ?_, ?_, ?_,
      ?_, fun i hi => ?_⟩
    · exact two_lt_length_of_ne_mark (mark_prefix_exposed hcandidate hscan hregions hcandidate)
        hcore
    · exact length_le_of_prefix_exposed (List.prefix_refl _) hnl
    · exact length_le_of_prefix_exposed hprefix hnl
    · rcases drop_length_exposed hline' ws regions with h | h
      · exact Or.inl h
      · right
        rw [overwrite_openSpans_self hregions] at h
        exact ⟨ws, hscan, h⟩
    · by_cases hopen : Open (normalize candidate) regions i
      · exact Or.inr hopen
      · left
        rw [getElem?_eq_exposed hscan hregions hprefix hnl hi hopen,
          getElem?_eq_exposed hscan hregions (List.prefix_refl _) hnl hi hopen]

/-! ## A sample

A library that pushes the address of another library and a byte that is not known yet, and a
deployment of it.  The arguments of the deployment are chosen to end like a trailer whose beginning
stands in the hash of the trailer before them. -/

instance decidableEqExcept {ε α : Type} [DecidableEq ε] [DecidableEq α] :
    DecidableEq (Except ε α)
  | .ok a, .ok b => decidable_of_iff (a = b) ⟨congrArg Except.ok, Except.ok.inj⟩
  | .error a, .error b => decidable_of_iff (a = b) ⟨congrArg Except.error, Except.error.inj⟩
  | .ok _, .error _ => isFalse fun h => nomatch h
  | .error _, .ok _ => isFalse fun h => nomatch h

namespace Sample

def libraryBody : List Char :=
  libraryGuard ++ "73__$".toList ++ List.replicate 34 'a' ++ "$__6000".toList

def trailer : List Char :=
  "a165627a7a72305820".toList ++ List.replicate 64 'c' ++ "0029".toList

def regions : List Region :=
  [⟨.num 45, .num 1⟩]

def deployedBody : List Char :=
  "73".toList ++ List.replicate 40 '1' ++ "301473".toList ++ List.replicate 40 '2' ++
    "60ff".toList

def deployedTrailer : List Char :=
  "a264697066735822".toList ++ List.replicate 48 'e' ++ "a264697066735822eeee".toList ++
    "64736f6c63430804000033".toList

def arguments : List Char :=
  List.replicate 42 'f' ++ "64736f6c63430804000033".toList

def candidate : List Char :=
  mark ++ (libraryBody ++ trailer)

def observed : List Char :=
  mark ++ (deployedBody ++ (deployedTrailer ++ arguments))

theorem regions_proper : ∀ r ∈ regions, r.Proper := by
  decide

theorem isMatch_sample : (compare observed candidate regions).isMatch = true := by
  decide +kernel

end Sample

/-- The sample meets the assumptions of `agrees_outside_open_places`. -/
theorem agrees_outside_open_places_sample :
    '\n' ∉ Sample.candidate ∧ (∀ r ∈ Sample.regions, r.Proper) ∧
      (compare Sample.observed Sample.candidate Sample.regions).isMatch = true ∧
      ∃ n, 2 < n ∧ n ≤ (normalize Sample.candidate).length ∧
        n ≤ (normalize Sample.observed).length ∧
        ((normalize Sample.candidate).drop n = [] ∨
          ∃ ws, Scan (normalize Sample.candidate) 0 ws ∧
            IsTrailer
              ((maskRegions Sample.regions (maskWindows ws (normalize Sample.candidate))).drop n)) ∧
        ∀ i < n, (normalize Sample.observed)[i]? = (normalize Sample.candidate)[i]? ∨
          Open (normalize Sample.candidate) Sample.regions i := by
  have hline : '\n' ∉ Sample.candidate := by decide
  exact ⟨hline, Sample.regions_proper, Sample.isMatch_sample,
    agrees_outside_open_places hline Sample.regions_proper Sample.isMatch_sample⟩

end EvmLocator.Bytecode
