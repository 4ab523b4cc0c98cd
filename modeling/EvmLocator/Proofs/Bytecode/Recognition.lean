import EvmLocator.Proofs.Bytecode.Comparison

/-!
# A deployed code is recognised

What a compiler writes is a body and a trailer.  What is found on chain is that body with its open
places filled in, the trailer of another build, and whatever arguments the constructor was given.
The two match, and the danger is in the tail.  A trailer is looked for at the very end, where the
arguments are; chosen to look like the end of a trailer, they could make the search take away more
than a trailer, were it not for their size.  Arguments come in words of 64 digits, and one word
with a trailer before it is longer than any trailer, so what is taken away never reaches the body.

## Main results

* `prefix_stripMetadata_append`: behind a trailer, words of arguments protect what stands before.
* `hasGuard_append_iff`: a trailer never completes the guard of a library.
* `exposed_append_trailer`: where masks stay inside a body, what is compared of it and a trailer is
  the masked body.
* `isMatch_of_fillsIn`: a body with its open places filled in matches, whatever trailers and
  arguments follow.
-/

namespace EvmLocator.Bytecode

/-- A body of digits and placeholders, whose windows begin at the places `ws`. -/
structure IsBody (b : List Char) (ws : List Nat) : Prop extends Layout b ws where
  digits : ∀ i (h : i < b.length),
    Piece.isHex b[i] = true ∨ ∃ w ∈ ws, w ≤ i ∧ i < w + 40

/-- Whether `o` is the body `b` with its open places filled in: the windows of placeholders, the
regions, and the address in the guard of a library. -/
structure FillsIn (b : List Char) (ws : List Nat) (regions : List Region) (o : List Char) :
    Prop where
  digits : IsHexText o
  length_eq : o.length = b.length
  agrees : ∀ i < b.length, o[i]? = b[i]? ∨
    (∃ w ∈ ws, w ≤ i ∧ i < w + 40) ∨
    (∃ r ∈ regions, 2 * r.start.value ≤ i ∧ (i : Int) < 2 * (r.start.value + r.length.value)) ∨
    (libraryGuard <+: b ∧ 2 ≤ i ∧ i < 42)

/-- Whether a region lies inside a body. -/
def LiesIn (b : List Char) (r : Region) : Prop :=
  r.Proper ∧ 2 * (r.start.value + r.length.value) ≤ b.length

instance (b : List Char) (r : Region) : Decidable (LiesIn b r) := by
  unfold LiesIn
  infer_instance

/-! ## The tail of an observed code -/

/-- Behind a trailer, words of arguments protect what stands before. -/
theorem prefix_stripMetadata_append {q t args : List Char} (hq : '\n' ∉ q) (ht : IsTrailer t)
    (hargs : IsHexText args) (hwords : 64 ∣ args.length) :
    q <+: stripMetadata (q ++ (t ++ args)) := by
  cases args with
  | nil =>
      have hstrip : stripMetadata (q ++ (t ++ [])) = q := by
        rw [List.append_nil, stripMetadata_append ht]
      exact ⟨[], by rw [List.append_nil, hstrip]⟩
  | cons a args =>
      have hline : '\n' ∉ q ++ (t ++ a :: args) := by
        rw [List.mem_append, List.mem_append]
        rintro (h | h | h)
        · exact hq h
        · exact newline_notMem_of_isHexText (isHex_of_isTrailer ht) h
        · exact newline_notMem_of_isHexText hargs h
      rcases stripMetadata_cases_of_notMem hline with ⟨u, hu, hs⟩ | hs
      · -- A word of arguments and a trailer are longer than the trailer `u` that was taken away.
        have hword : 64 ≤ (a :: args).length := Nat.le_of_dvd (by simp) hwords
        have hlow := (length_of_isTrailer ht).1
        have hhigh := (length_of_isTrailer hu).2
        have hlen := congrArg List.length hs
        simp only [List.length_append] at hlen
        have hstrip : stripMetadata (q ++ (t ++ a :: args)) <+: q ++ (t ++ a :: args) :=
          ⟨u, hs.symm⟩
        refine List.prefix_of_prefix_length_le (List.prefix_append _ _) hstrip ?_
        omega
      · rw [hs]
        exact List.prefix_append _ _

/-! ## The guard of a library -/

/-- A trailer begins with a digit that the guard of a library does not have. -/
theorem hasGuard_append_iff {b t : List Char} (ht : IsTrailer t) :
    hasGuard (mark ++ (b ++ t)) = true ↔ libraryGuard <+: b := by
  have hbody : body (mark ++ (b ++ t)) = b ++ t := rfl
  rw [hasGuard, hbody, List.isPrefixOf_iff_prefix]
  constructor
  · intro h
    rcases Nat.lt_or_ge b.length libraryGuard.length with hlt | hge
    · have hnext : libraryGuard[b.length]? = some 'a' := by
        rw [← getElem?_eq_of_prefix h hlt, List.getElem?_append_right (Nat.le_refl _),
          Nat.sub_self, ← List.head?_eq_getElem?, head?_of_isTrailer ht]
      exact absurd (List.mem_of_getElem? hnext) (by decide)
    · exact List.prefix_of_prefix_length_le h (List.prefix_append _ _) hge
  · exact fun h => h.trans (List.prefix_append _ _)

/-! ## Masks that stay inside a body -/

/-- Whether all that a comparison with a candidate masks lies inside a body: the windows of its
placeholders, the regions, and the address in the guard of a library. -/
structure MasksInside (b candidate : List Char) (regions : List Region) : Prop where
  windows : ∀ ws, Scan candidate 0 ws → ∀ w ∈ ws, w + placeholderLength ≤ (mark ++ b).length
  regions : ∀ r ∈ regions, LiesIn b r
  guard : hasGuard candidate = true → 42 ≤ b.length

theorem length_mark_append (s : List Char) : (mark ++ s).length = s.length + 2 := by
  rw [List.length_append, Nat.add_comm]
  rfl

section

variable {b t candidate : List Char} {ws : List Nat} {regions : List Region}

namespace MasksInside

theorem proper (h : MasksInside b candidate regions) : ∀ r ∈ regions, r.Proper :=
  fun r hr => (h.regions r hr).1

/-- The code of the body reaches the end of every span that the comparison masks. -/
theorem within (h : MasksInside b candidate regions) (hscan : Scan candidate 0 ws) :
    ∀ s ∈ openSpans candidate ws regions, s.Within (mark ++ b).length := by
  intro s hs
  rw [openSpans, List.mem_append, List.mem_append, List.mem_map, List.mem_map] at hs
  rcases hs with hs | ⟨w, hw, rfl⟩ | ⟨r, hr, rfl⟩
  · split at hs
    · next hguard =>
        have hlong := h.guard hguard
        rw [List.mem_singleton] at hs
        subst hs
        rw [Span.Within, length_mark_append]
        simp only [guardSpan]
        omega
    · cases hs
  · exact h.windows ws hscan w hw
  · obtain ⟨hproper, hin⟩ := h.regions r hr
    have hstart := Region.span_start hproper
    have hwidth := Region.span_width hproper
    simp only [Region.position, Region.width] at hstart hwidth
    rw [Span.Within, length_mark_append]
    omega

end MasksInside

/-- What is compared of a body and a trailer is the masked body. -/
theorem exposed_append_trailer (h : MasksInside b candidate regions) (hscan : Scan candidate 0 ws)
    (ht : IsTrailer t) :
    exposed candidate ws regions (mark ++ (b ++ t)) =
      overwrite (openSpans candidate ws regions) (mark ++ b) := by
  have hsplit := overwrite_append (h.within hscan) t
  rw [List.append_assoc] at hsplit
  rw [exposed, hsplit, stripMetadata_append ht]

end

/-! ## The spans of a body -/

section Body

variable {b o t : List Char} {ws : List Nat} {regions : List Region}

theorem getElem?_mark_append (s : List Char) (i : Nat) : (mark ++ s)[i + 2]? = s[i]? := by
  rw [List.getElem?_append_right (by simp [mark])]
  rfl

/-- The windows of a body are those of the scan of its code. -/
theorem scan_of_isBody (hb : IsBody b ws) (ht : IsTrailer t) :
    Scan (mark ++ (b ++ t)) 0 (ws.map fun w => w + 2) := by
  have hplace : ∀ w ∈ ws, ∀ i, i < 40 → (mark ++ (b ++ t))[w + 2 + i]? = b[w + i]? := by
    intro w hw i hi
    have hwithin := hb.within w hw
    simp only [placeholderLength] at hwithin
    rw [show w + 2 + i = w + i + 2 by omega, getElem?_mark_append,
      List.getElem?_append_left (by omega)]
  refine scan_of_layout ⟨?_, ?_, ?_⟩ (fun _ _ => Nat.zero_le _) ?_
  · intro v hv
    obtain ⟨w, hw, rfl⟩ := List.mem_map.mp hv
    exact ⟨(hplace w hw 0 (by omega)).trans (hb.opens w hw).1,
      (hplace w hw 1 (by omega)).trans (hb.opens w hw).2⟩
  · intro v hv
    obtain ⟨w, hw, rfl⟩ := List.mem_map.mp hv
    have hwithin := hb.within w hw
    simp only [List.length_append, mark, List.length_cons, List.length_nil]
    omega
  · rw [List.pairwise_map]
    exact hb.disjoint.imp fun h => by omega
  · intro q _ hq
    rcases q with _ | _ | j
    · exact absurd hq (by simp [mark])
    · exact absurd hq (by simp [mark])
    · rw [getElem?_mark_append] at hq
      have hhex : Piece.isHex '_' = false := by decide
      rcases Nat.lt_or_ge j b.length with hlt | hge
      · rw [List.getElem?_append_left hlt] at hq
        rw [List.getElem?_eq_getElem hlt, Option.some.injEq] at hq
        rcases hb.digits j hlt with h | ⟨w, hw, hfrom, hbefore⟩
        · rw [hq, hhex] at h
          cases h
        · refine ⟨w + 2, List.mem_map.mpr ⟨w, hw, rfl⟩, ?_, ?_⟩ <;>
            simp only [windowAt, placeholderLength] <;> omega
      · rw [List.getElem?_append_right hge] at hq
        have h := isHex_of_isTrailer ht '_' (List.mem_of_getElem? hq)
        rw [hhex] at h
        cases h

/-- All that is masked for a body lies inside it. -/
theorem masksInside_of_isBody (hb : IsBody b ws) (ht : IsTrailer t)
    (hregions : ∀ r ∈ regions, LiesIn b r) : MasksInside b (mark ++ (b ++ t)) regions := by
  refine ⟨fun vs hscan v hv => ?_, hregions, fun hguard => ?_⟩
  · obtain rfl := hscan.unique (scan_of_isBody hb ht)
    obtain ⟨w, hw, rfl⟩ := List.mem_map.mp hv
    have hwithin := hb.within w hw
    rw [length_mark_append]
    omega
  · have hle := ((hasGuard_append_iff ht).mp hguard).length_le
    have hlen : libraryGuard.length = 46 := by decide
    omega

/-- The code of a body reaches the end of every span that its comparison masks. -/
theorem within_of_isBody (hb : IsBody b ws) (ht : IsTrailer t)
    (hregions : ∀ r ∈ regions, LiesIn b r) :
    ∀ s ∈ openSpans (mark ++ (b ++ t)) (ws.map fun w => w + 2) regions,
      s.Within (mark ++ b).length :=
  (masksInside_of_isBody hb ht hregions).within (scan_of_isBody hb ht)

/-- A body with its open places filled in agrees with the body outside the spans. -/
theorem eq_or_covers_of_fillsIn (ht : IsTrailer t) (hregions : ∀ r ∈ regions, LiesIn b r)
    (ho : FillsIn b ws regions o) :
    ∀ i < (mark ++ b).length, (mark ++ o)[i]? = (mark ++ b)[i]? ∨
      ∃ s ∈ openSpans (mark ++ (b ++ t)) (ws.map fun w => w + 2) regions, s.Covers i := by
  intro i hi
  rcases i with _ | _ | j
  · exact Or.inl rfl
  · exact Or.inl rfl
  · have hj : j < b.length := by simpa [mark] using hi
    rw [getElem?_mark_append, getElem?_mark_append]
    simp only [openSpans, List.mem_append, List.mem_map]
    rcases ho.agrees j hj with h | ⟨w, hw, hge, hlt⟩ | ⟨r, hr, hge, hlt⟩ | ⟨hguard, hge, hlt⟩
    · exact Or.inl h
    · right
      refine ⟨windowAt (w + 2), Or.inr (Or.inl ⟨w + 2, ⟨w, hw, rfl⟩, rfl⟩), ?_, ?_⟩ <;>
        simp only [windowAt, placeholderLength] <;> omega
    · right
      have hstart := Region.span_start (hregions r hr).1
      have hwidth := Region.span_width (hregions r hr).1
      simp only [Region.position, Region.width] at hstart hwidth
      exact ⟨r.span, Or.inr (Or.inr ⟨r, hr, rfl⟩), by omega, by omega⟩
    · right
      refine ⟨guardSpan, Or.inl ?_, ?_, ?_⟩
      · rw [if_pos ((hasGuard_append_iff ht).mpr hguard)]
        exact List.mem_singleton_self _
      · simp only [guardSpan]
        omega
      · simp only [guardSpan]
        omega

/-- The code of a body as the comparison sees it. -/
def maskedBody (b t : List Char) (ws : List Nat) (regions : List Region) : List Char :=
  overwrite (openSpans (mark ++ (b ++ t)) (ws.map fun w => w + 2) regions) (mark ++ b)

theorem exposed_candidate (hb : IsBody b ws) (ht : IsTrailer t)
    (hregions : ∀ r ∈ regions, LiesIn b r) :
    exposed (mark ++ (b ++ t)) (ws.map fun w => w + 2) regions (mark ++ (b ++ t)) =
      maskedBody b t ws regions :=
  exposed_append_trailer (masksInside_of_isBody hb ht hregions) (scan_of_isBody hb ht) ht

/-- A body and any deployment of it are masked to one text. -/
theorem overwrite_eq_maskedBody (hb : IsBody b ws) (ht : IsTrailer t)
    (hregions : ∀ r ∈ regions, LiesIn b r) (ho : FillsIn b ws regions o) :
    overwrite (openSpans (mark ++ (b ++ t)) (ws.map fun w => w + 2) regions) (mark ++ o) =
      maskedBody b t ws regions :=
  overwrite_congr (by rw [List.length_append, List.length_append, ho.length_eq])
    (within_of_isBody hb ht hregions) (eq_or_covers_of_fillsIn ht hregions ho)

theorem exposed_observed (hb : IsBody b ws) (ht : IsTrailer t)
    (hregions : ∀ r ∈ regions, LiesIn b r) (ho : FillsIn b ws regions o) (tail : List Char) :
    exposed (mark ++ (b ++ t)) (ws.map fun w => w + 2) regions (mark ++ (o ++ tail)) =
      stripMetadata (maskedBody b t ws regions ++ tail) := by
  have hwithin : ∀ s ∈ openSpans (mark ++ (b ++ t)) (ws.map fun w => w + 2) regions,
      s.Within (mark ++ o).length := by
    rw [List.length_append, ho.length_eq, ← List.length_append]
    exact within_of_isBody hb ht hregions
  have hsplit := overwrite_append hwithin tail
  rw [List.append_assoc, overwrite_eq_maskedBody hb ht hregions ho] at hsplit
  rw [exposed, hsplit]

theorem newline_notMem_maskedBody (hb : IsBody b ws) (ht : IsTrailer t)
    (hregions : ∀ r ∈ regions, LiesIn b r) (ho : FillsIn b ws regions o) :
    '\n' ∉ maskedBody b t ws regions := by
  rw [← overwrite_eq_maskedBody hb ht hregions ho]
  apply newline_notMem_overwrite
  rw [List.mem_append, not_or]
  exact ⟨by decide, newline_notMem_of_isHexText ho.digits⟩

theorem length_maskedBody (b t : List Char) (ws : List Nat) (regions : List Region) :
    (maskedBody b t ws regions).length = b.length + 2 := by
  rw [maskedBody, length_overwrite, List.length_append, Nat.add_comm]
  rfl

end Body

/-! ## The main result -/

/-- **A match has no false negatives.**  A body with its open places filled in matches, whatever
trailers end the two codes and whatever words of arguments the observed one carries. -/
theorem isMatch_of_fillsIn {b o t t' args : List Char} {ws : List Nat} {regions : List Region}
    (hne : b ≠ []) (hb : IsBody b ws) (hlower : Text.lower b = b)
    (hregions : ∀ r ∈ regions, LiesIn b r) (ho : FillsIn b ws regions o) (ht : IsTrailer t)
    (ht' : IsTrailer t') (hargs : IsHexText args) (hwords : 64 ∣ args.length) :
    (compare (mark ++ (o ++ (t' ++ args))) (mark ++ (b ++ t)) regions).isMatch = true := by
  have hcandidate : normalize (mark ++ (b ++ t)) = mark ++ (b ++ t) :=
    normalize_mark_append (lower_append hlower (isHex_of_isTrailer ht))
  have htail : IsHexText (t' ++ args) := fun c hc =>
    (List.mem_append.mp hc).elim (isHex_of_isTrailer ht' c) (hargs c)
  have hobserved : normalize (mark ++ (o ++ (t' ++ args))) = mark ++ (o ++ (t' ++ args)) :=
    normalize_mark_append (lower_append (lower_of_isHexText ho.digits) htail)
  have hpos := List.length_pos_iff.mpr hne
  have hmark : mark.length = 2 := rfl
  rw [isMatch_compare_iff fun r hr => (hregions r hr).1, hcandidate, hobserved]
  refine ⟨?_, Or.inr ⟨ws.map fun w => w + 2, scan_of_isBody hb ht, ?_, ?_⟩⟩
  · intro h
    have hlen := congrArg List.length h
    rw [List.length_append, List.length_append] at hlen
    omega
  · rw [exposed_candidate hb ht hregions]
    intro h
    have hlen := congrArg List.length h
    rw [length_maskedBody] at hlen
    omega
  · rw [exposed_candidate hb ht hregions, exposed_observed hb ht hregions ho]
    exact prefix_stripMetadata_append (newline_notMem_maskedBody hb ht hregions ho) ht' hargs
      hwords

/-- The sample meets the assumptions of `isMatch_of_fillsIn`. -/
theorem isMatch_of_fillsIn_sample :
    Sample.libraryBody ≠ [] ∧ IsBody Sample.libraryBody [48] ∧
      Text.lower Sample.libraryBody = Sample.libraryBody ∧
      (∀ r ∈ Sample.regions, LiesIn Sample.libraryBody r) ∧
      FillsIn Sample.libraryBody [48] Sample.regions Sample.deployedBody ∧
      IsTrailer Sample.trailer ∧ IsTrailer Sample.deployedTrailer ∧
      IsHexText Sample.arguments ∧ 64 ∣ Sample.arguments.length ∧
      (compare (mark ++ (Sample.deployedBody ++ (Sample.deployedTrailer ++ Sample.arguments)))
        (mark ++ (Sample.libraryBody ++ Sample.trailer)) Sample.regions).isMatch = true := by
  have hne : Sample.libraryBody ≠ [] := by decide
  have hb : IsBody Sample.libraryBody [48] := by
    refine { opens := ?_, within := ?_, disjoint := ?_, digits := ?_ }
    · decide +kernel
    · decide +kernel
    · exact List.pairwise_singleton _ _
    · decide +kernel
  have hlower : Text.lower Sample.libraryBody = Sample.libraryBody := by
    decide +kernel
  have hregions : ∀ r ∈ Sample.regions, LiesIn Sample.libraryBody r := by decide +kernel
  have ho : FillsIn Sample.libraryBody [48] Sample.regions Sample.deployedBody := by
    refine { digits := ?_, length_eq := ?_, agrees := ?_ }
    · exact List.all_eq_true.mp (by decide +kernel)
    · decide +kernel
    · decide +kernel
  have ht : IsTrailer Sample.trailer := ⟨.swarm0, by decide +kernel⟩
  have ht' : IsTrailer Sample.deployedTrailer := ⟨.ipfs, by decide +kernel⟩
  have hargs : IsHexText Sample.arguments := List.all_eq_true.mp (by decide +kernel)
  have hwords : 64 ∣ Sample.arguments.length := by decide +kernel
  exact ⟨hne, hb, hlower, hregions, ho, ht, ht', hargs, hwords,
    isMatch_of_fillsIn hne hb hlower hregions ho ht ht' hargs hwords⟩

end EvmLocator.Bytecode
