import EvmLocator.Proofs.Bytecode.Recognition
import EvmLocator.Proofs.Bytecode.Shortcut

/-!
# The trailer of an observed code has no part in the answer

Two builds of one contract differ in their trailers, and a comparison has to give the same answer
for both.  Three things could let a trailer into the answer.  Codes are masked before they are
stripped, so a mask that reached into the trailer would keep it from being recognised.  Trailers of
different kinds have different lengths, and a mask is left out for a code that ends before it does.
And one of the two codes may be equal to the candidate, in which case the comparison does not look
at its parts at all.

Where everything that is masked lies inside the body of the observed code, the first two cannot
happen, and what is compared of the code is its masked body, whatever the trailer
(`exposed_append_trailer`).  The third makes no difference: if a candidate is equal to the observed
code then it has no placeholders and more than a mark is left of it, so the long way agrees with
the shortcut (`compareMasked_self_of_masksInside`).

## Main results

* `compareMasked_eq_of_trailers`: the long way does not see the trailer.
* `compare_trailer_eq_compareMasked`: the shortcut does not decide.
* `compare_eq_of_trailers`: codes that differ in their trailers only are compared alike.
-/

namespace EvmLocator.Bytecode

section

variable {b t candidate : List Char} {regions : List Region}

/-- The long way does not see the trailer of the observed code. -/
theorem compareMasked_eq_of_trailers {t₁ t₂ : List Char} (h : MasksInside b candidate regions)
    (ht₁ : IsTrailer t₁) (ht₂ : IsTrailer t₂) :
    compareMasked (mark ++ (b ++ t₁)) candidate regions =
      compareMasked (mark ++ (b ++ t₂)) candidate regions := by
  cases hws : windows candidate with
  | error cut => rw [compareMasked, compareMasked, hws]
  | ok ws =>
      have hscan := windows_eq_ok_iff.mp hws
      rw [compareMasked_eq hws h.proper, compareMasked_eq hws h.proper,
        exposed_append_trailer h hscan ht₁, exposed_append_trailer h hscan ht₂]

/-- Digits behind a mark hold no placeholder. -/
theorem scan_of_isHexText (hb : IsHexText b) : Scan (mark ++ b) 0 [] := by
  refine .done fun q _ hpair => ?_
  have hmem := List.mem_of_getElem? hpair.1
  rcases List.mem_append.mp hmem with hmark | hbody
  · exact absurd hmark (by decide)
  · exact absurd (hb _ hbody) (by decide)

/-- The long way agrees that a body of digits with a trailer matches itself. -/
theorem compareMasked_self_of_masksInside (hne : b ≠ []) (hb : IsHexText b) (ht : IsTrailer t)
    (h : MasksInside b (mark ++ (b ++ t)) regions) :
    compareMasked (mark ++ (b ++ t)) (mark ++ (b ++ t)) regions = .agrees := by
  have hscan : Scan (mark ++ (b ++ t)) 0 [] :=
    scan_of_isHexText fun c hc => (List.mem_append.mp hc).elim (hb c) (isHex_of_isTrailer ht c)
  rw [compareMasked_self, windows_eq_ok_iff.mpr hscan]
  refine if_neg fun hmark => ?_
  rw [core_eq_exposed h.proper, exposed_append_trailer h hscan ht] at hmark
  have hlength := congrArg List.length hmark
  have hpos := List.length_pos_iff.mpr hne
  rw [length_overwrite, List.length_append] at hlength
  omega

theorem normalize_append_trailer (hb : IsHexText b) (ht : IsTrailer t) :
    normalize (mark ++ (b ++ t)) = mark ++ (b ++ t) :=
  normalize_mark_append (lower_append (lower_of_isHexText hb) (isHex_of_isTrailer ht))

/-- An observed code of digits with a trailer is compared the long way, or as if it were. -/
theorem compare_trailer_eq_compareMasked (hne : b ≠ []) (hb : IsHexText b) (ht : IsTrailer t)
    (h : MasksInside b (normalize candidate) regions) (hcandidate : normalize candidate ≠ mark) :
    compare (mark ++ (b ++ t)) candidate regions =
      compareMasked (mark ++ (b ++ t)) (normalize candidate) regions := by
  simp only [compare, if_neg hcandidate, normalize_append_trailer hb ht]
  split
  · next heq =>
      rw [← heq] at h ⊢
      exact (compareMasked_self_of_masksInside hne hb ht h).symm
  · rfl

end

/-- **Metadata never influences a match.**  Where all that is masked lies inside the body, observed
codes that differ in their trailers only are compared alike with every candidate. -/
theorem compare_eq_of_trailers {b t₁ t₂ candidate : List Char} {regions : List Region}
    (hne : b ≠ []) (hb : IsHexText b) (ht₁ : IsTrailer t₁) (ht₂ : IsTrailer t₂)
    (h : MasksInside b (normalize candidate) regions) :
    compare (mark ++ (b ++ t₁)) candidate regions =
      compare (mark ++ (b ++ t₂)) candidate regions := by
  by_cases hcandidate : normalize candidate = mark
  · simp only [compare, if_pos hcandidate]
  · rw [compare_trailer_eq_compareMasked hne hb ht₁ h hcandidate,
      compare_trailer_eq_compareMasked hne hb ht₂ h hcandidate,
      compareMasked_eq_of_trailers h ht₁ ht₂]

/-- A deployed library under trailers of two kinds, and two candidates that match it under both: the
library, for which the guard, a placeholder and a region are masked, and the one of the two deployed
codes itself. -/
theorem compare_eq_of_trailers_sample :
    let deployed := fun t => mark ++ (Sample.deployedBody ++ t)
    Sample.deployedBody ≠ [] ∧ IsHexText Sample.deployedBody ∧ IsTrailer Sample.trailer ∧
      IsTrailer Sample.deployedTrailer ∧
      (∀ c ∈ [Sample.candidate, deployed Sample.trailer],
        MasksInside Sample.deployedBody (normalize c) Sample.regions) ∧
      ∀ c ∈ [Sample.candidate, deployed Sample.trailer],
        compare (deployed Sample.trailer) c Sample.regions = .agrees ∧
          compare (deployed Sample.deployedTrailer) c Sample.regions = .agrees := by
  intro deployed
  have hne : Sample.deployedBody ≠ [] := by decide
  have hb : IsHexText Sample.deployedBody := List.all_eq_true.mp (by decide +kernel)
  have ht₁ : IsTrailer Sample.trailer := ⟨.swarm0, by decide +kernel⟩
  have ht₂ : IsTrailer Sample.deployedTrailer := ⟨.ipfs, by decide +kernel⟩
  have hinside : ∀ c ∈ [Sample.candidate, deployed Sample.trailer],
      MasksInside Sample.deployedBody (normalize c) Sample.regions := by
    have hlong : (mark ++ Sample.deployedBody).length = 94 := by decide +kernel
    have hregions : ∀ r ∈ Sample.regions, LiesIn Sample.deployedBody r := by decide +kernel
    have hguard : 42 ≤ Sample.deployedBody.length := by decide +kernel
    intro c hc
    refine ⟨fun ws hscan => ?_, hregions, fun _ => hguard⟩
    rw [hlong]
    simp only [List.mem_cons, List.not_mem_nil, or_false] at hc
    rcases hc with rfl | rfl
    · have hwindows : windows (normalize Sample.candidate) = .ok [50] := by decide +kernel
      obtain rfl := hscan.unique (windows_eq_ok_iff.mp hwindows)
      decide
    · have hwindows : windows (normalize (deployed Sample.trailer)) = .ok [] := by decide +kernel
      obtain rfl := hscan.unique (windows_eq_ok_iff.mp hwindows)
      nofun
  have hagrees : ∀ c ∈ [Sample.candidate, deployed Sample.trailer],
      compare (deployed Sample.trailer) c Sample.regions = .agrees := by decide +kernel
  refine ⟨hne, hb, ht₁, ht₂, hinside, fun c hc => ⟨hagrees c hc, ?_⟩⟩
  rw [← compare_eq_of_trailers hne hb ht₁ ht₂ (hinside c hc), hagrees c hc]

end EvmLocator.Bytecode
