import EvmLocator.Proofs.Bytecode.Comparison

/-!
# The search for placeholders, round by round

`windows` looks for placeholders in the candidate, and what it finds is overwritten in the observed
code afterwards.  The search that it stands for is a loop over both codes at once.  A round starts
over at the beginning of the candidate, finds its first two adjacent underscores, and overwrites the
window that they open in both codes.  The loop ends when no underscores are left, and the comparison
with it when the candidate cuts a window short.

`Search.turn` is the body of that loop and `Rounds` a run of it.  Every round overwrites forty
characters of the candidate and never the same ones twice, since what a round leaves behind has no
pair of underscores before the end of its window (`Cleared`).  This bounds the rounds, and it makes
the places that they find those of one pass over the original candidate.

## Main results

* `Rounds.exists_finished`, `Rounds.isPrefix`: the loop ends, and there is one way for it to run.
* `Rounds.passes`: what it finds are the windows of a scan of the original candidate.
* `compareMasked_eq_outcome`: the comparison goes on where the loop ends.
* `search_is_scan`: the bound on the rounds, how the loop ends, and what it leaves of the two codes.
-/

namespace EvmLocator.Bytecode

/-- The two codes of a comparison between two rounds of the search. -/
structure Search where
  candidate : List Char
  observed : List Char

namespace Search

/-- Both codes with the window at a place overwritten, as far as they reach its end. -/
def clear (s : Search) (pos : Nat) : Search where
  candidate := zeroRegion s.candidate pos placeholderLength
  observed := zeroRegion s.observed pos placeholderLength

/-- What a turn of the loop comes to: no underscores are left, or a window is cut short, or a round
is completed. -/
inductive Turn where
  | ended
  | cutShort (pos : Nat)
  | round (pos : Nat) (after : Search)

/-- The body of the loop. -/
def turn (s : Search) : Turn :=
  match findPlaceholder s.candidate with
  | none => .ended
  | some pos =>
    if s.candidate.length < pos + placeholderLength then .cutShort pos
    else .round pos (s.clear pos)

theorem turn_eq_ended_iff {s : Search} :
    s.turn = .ended ↔ findPlaceholder s.candidate = none := by
  unfold turn
  cases findPlaceholder s.candidate with
  | none => simp
  | some pos =>
      refine iff_of_false ?_ (by simp)
      simp only
      split <;> simp

theorem turn_eq_cutShort_iff {s : Search} {pos : Nat} :
    s.turn = .cutShort pos ↔ findPlaceholder s.candidate = some pos ∧
      s.candidate.length < pos + placeholderLength := by
  unfold turn
  cases findPlaceholder s.candidate with
  | none => simp
  | some p =>
      simp only [Option.some.injEq]
      split <;> grind

theorem turn_eq_round_iff {s t : Search} {pos : Nat} :
    s.turn = .round pos t ↔ findPlaceholder s.candidate = some pos ∧
      pos + placeholderLength ≤ s.candidate.length ∧ t = s.clear pos := by
  unfold turn
  cases findPlaceholder s.candidate with
  | none => simp
  | some p =>
      simp only [Option.some.injEq]
      split <;> grind

/-- Whether the loop ends here. -/
def Finished (s : Search) : Prop :=
  s.turn = .ended ∨ ∃ pos, s.turn = .cutShort pos

theorem Finished.turn_ne_round {s t : Search} {pos : Nat} (h : s.Finished) :
    s.turn ≠ .round pos t := by
  rcases h with h | ⟨v, h⟩ <;> simp [h]

end Search

/-- Completed rounds of the search, with the places that they find. -/
inductive Rounds : Search → List Nat → Search → Prop where
  | none {s : Search} : Rounds s [] s
  | next {s t u : Search} {pos : Nat} {ws : List Nat} (turn : s.turn = .round pos t)
      (rest : Rounds t ws u) : Rounds s (pos :: ws) u

namespace Rounds

variable {s t u : Search} {vs ws : List Nat}

/-- The loop ends. -/
theorem exists_finished (s : Search) : ∃ ws t, Rounds s ws t ∧ t.Finished := by
  -- Every round overwrites two underscores.
  induction hn : s.candidate.count '_' using Nat.strongRecOn generalizing s with
  | ind n ih =>
      subst hn
      cases hturn : s.turn with
      | ended => exact ⟨[], s, .none, Or.inl hturn⟩
      | cutShort pos => exact ⟨[], s, .none, Or.inr ⟨pos, hturn⟩⟩
      | round pos t =>
          obtain ⟨hfind, hwithin, rfl⟩ := Search.turn_eq_round_iff.mp hturn
          obtain ⟨ws, u, hrest, hend⟩ :=
            ih _ (count_zeroRegion_lt hfind (Nat.not_lt.mpr hwithin)) (s.clear pos) rfl
          exact ⟨pos :: ws, u, .next hturn hrest, hend⟩

/-- Every run of the loop is the beginning of the run that ends. -/
theorem isPrefix (h : Rounds s ws t) (hend : t.Finished) (h' : Rounds s vs u) : vs <+: ws := by
  induction h generalizing vs with
  | none =>
      cases h' with
      | none => exact List.prefix_refl _
      | next turn rest => exact absurd turn hend.turn_ne_round
  | next turn rest ih =>
      cases h' with
      | none => exact List.nil_prefix
      | next turn' rest' =>
          obtain ⟨rfl, rfl⟩ : _ ∧ _ := by simpa [turn] using turn'
          exact (List.prefix_cons_inj _).mpr (ih hend rest')

/-! ## What the rounds leave of the codes -/

/-- The rounds overwrite their windows in both codes. -/
theorem after_eq (h : Rounds s ws t) :
    t = ⟨maskWindows ws s.candidate, maskWindows ws s.observed⟩ := by
  induction h with
  | none => rfl
  | next turn _ ih =>
      obtain ⟨-, -, rfl⟩ := Search.turn_eq_round_iff.mp turn
      exact ih

theorem candidate_eq (h : Rounds s ws t) : t.candidate = maskWindows ws s.candidate :=
  congrArg Search.candidate h.after_eq

theorem observed_eq (h : Rounds s ws t) : t.observed = maskWindows ws s.observed :=
  congrArg Search.observed h.after_eq

/-- The search goes on where the rounds end. -/
theorem windows_eq (h : Rounds s ws t) :
    windows s.candidate = (windows t.candidate).map fun rest => ws ++ rest := by
  induction h with
  | @none s => cases windows s.candidate <;> rfl
  | @next s t u pos ws turn _ ih =>
      obtain ⟨hfind, hwithin, rfl⟩ := Search.turn_eq_round_iff.mp turn
      simp only [Search.clear] at ih
      rw [windows_of_some hfind, if_neg (Nat.not_lt.mpr hwithin), ih]
      cases windows u.candidate <;> rfl

theorem windows_of_ended (h : Rounds s ws t) (hended : t.turn = .ended) :
    windows s.candidate = .ok ws := by
  rw [h.windows_eq, windows_of_none (Search.turn_eq_ended_iff.mp hended), Except.map,
    List.append_nil]

theorem windows_of_cutShort {v : Nat} (h : Rounds s ws t) (hcut : t.turn = .cutShort v) :
    windows s.candidate = .error v := by
  obtain ⟨hfind, hshort⟩ := Search.turn_eq_cutShort_iff.mp hcut
  rw [h.windows_eq, windows_of_some hfind, if_pos hshort, Except.map]

end Rounds

/-! ## The windows of a scan, one after another -/

/-- A scan of a code from the place `p` on opens windows at the places `ws`, one after another, and
stands at the place `q` behind the last. -/
inductive Passes (code : List Char) : Nat → List Nat → Nat → Prop where
  | none {p : Nat} : Passes code p [] p
  | window {p w q : Nat} {ws : List Nat} (ahead : p ≤ w) (opens : PairAt code w)
      (first : ∀ r, p ≤ r → r < w → ¬ PairAt code r)
      (within : w + placeholderLength ≤ code.length)
      (rest : Passes code (w + placeholderLength) ws q) : Passes code p (w :: ws) q

namespace Passes

variable {code : List Char} {p q : Nat} {ws : List Nat}

/-- The scan passes forty places or more with every window. -/
theorem add_length_le (h : Passes code p ws q) : p + placeholderLength * ws.length ≤ q := by
  induction h with
  | none => simp
  | window ahead _ _ _ _ ih =>
      rw [List.length_cons, Nat.mul_succ]
      omega

theorem le_length (h : Passes code p ws q) (hp : p ≤ code.length) : q ≤ code.length := by
  induction h with
  | none => exact hp
  | window _ _ _ within _ ih => exact ih within

theorem le_of_mem (h : Passes code p ws q) : ∀ w ∈ ws, p ≤ w := by
  induction h with
  | none => simp
  | window ahead _ _ _ _ ih =>
      refine List.forall_mem_cons.mpr ⟨ahead, fun w hw => ?_⟩
      have := ih w hw
      omega

theorem pairwise (h : Passes code p ws q) : ws.Pairwise fun v w => v + placeholderLength ≤ w := by
  induction h with
  | none => exact List.Pairwise.nil
  | window _ _ _ _ rest ih => exact List.Pairwise.cons rest.le_of_mem ih

end Passes

/-- From any state of the search on, what the rounds find are the windows that the scan passes. -/
theorem Rounds.passes_of_cleared {s t : Search} {ws : List Nat} (h : Rounds s ws t)
    {original : List Char} {p : Nat} (hs : Cleared original s.candidate p) :
    ∃ q, Passes original p ws q ∧ Cleared original t.candidate q := by
  induction h generalizing p with
  | none => exact ⟨p, .none, hs⟩
  | @next s t u w ws turn _ ih =>
      obtain ⟨hfind, hwithin, rfl⟩ := Search.turn_eq_round_iff.mp turn
      obtain ⟨hpair, hfirst⟩ := findPlaceholder_eq_some_iff.mp hfind
      have hahead := hs.le_of_pairAt hpair
      obtain ⟨q, hpasses, hcleared⟩ := ih (hs.step hpair hfirst hwithin)
      refine ⟨q, .window hahead ((hs.pairAt_iff hahead).mp hpair) (hs.not_pairAt_of_first hfirst)
        ?_ hpasses, hcleared⟩
      rwa [← hs.length_eq]

/-- What the rounds find are the windows of a scan of the original candidate. -/
theorem Rounds.passes {s t : Search} {ws : List Nat} (h : Rounds s ws t) :
    ∃ q, Passes s.candidate 0 ws q :=
  (h.passes_of_cleared (Cleared.initial s.candidate)).imp fun _ hq => hq.1

/-- The rounds are no more than the windows that fit beside one another. -/
theorem Rounds.length_le {s t : Search} {ws : List Nat} (h : Rounds s ws t) :
    ws.length ≤ s.candidate.length / placeholderLength := by
  obtain ⟨q, hq⟩ := h.passes
  have hwidth := hq.add_length_le
  have hend := hq.le_length (Nat.zero_le _)
  rw [Nat.le_div_iff_mul_le (by decide), Nat.mul_comm]
  omega

/-! ## The two codes when the search is over -/

theorem getElem?_maskWindows (ws : List Nat) (code : List Char) (i : Nat) :
    (maskWindows ws code)[i]? =
      if ∃ w ∈ ws, (windowAt w).Within code.length ∧ (windowAt w).Covers i then some '0'
      else code[i]? := by
  rw [maskWindows_eq, getElem?_overwrite]
  congr 1
  rw [eq_iff_iff]
  constructor
  · rintro ⟨_, hspan, hplace⟩
    obtain ⟨w, hw, rfl⟩ := List.mem_map.mp hspan
    exact ⟨w, hw, hplace⟩
  · rintro ⟨w, hw, hplace⟩
    exact ⟨windowAt w, List.mem_map.mpr ⟨w, hw, rfl⟩, hplace⟩

/-- What is left of two codes in whose windows at the places `ws` there are zeros now. -/
structure Cleaned (before after : Search) (ws : List Nat) : Prop where
  length_candidate : after.candidate.length = before.candidate.length
  length_observed : after.observed.length = before.observed.length
  no_pair : ∀ i, ¬ PairAt after.candidate i
  candidate_at : ∀ i, after.candidate[i]? =
    if ∃ w ∈ ws, (windowAt w).Covers i then some '0' else before.candidate[i]?
  observed_at : ∀ i, after.observed[i]? =
    if ∃ w ∈ ws, (windowAt w).Within before.observed.length ∧ (windowAt w).Covers i then some '0'
    else before.observed[i]?

theorem Rounds.cleaned {s t : Search} {ws : List Nat} (h : Rounds s ws t)
    (hended : t.turn = .ended) : Cleaned s t ws where
  length_candidate := by rw [h.candidate_eq, maskWindows_eq, length_overwrite]
  length_observed := by rw [h.observed_eq, maskWindows_eq, length_overwrite]
  no_pair := findPlaceholder_eq_none_iff.mp (Search.turn_eq_ended_iff.mp hended)
  candidate_at i := by
    have hwithin := (windows_eq_ok_iff.mp (h.windows_of_ended hended)).within_of_mem
    rw [h.candidate_eq, getElem?_maskWindows]
    congr 1
    rw [eq_iff_iff]
    exact exists_congr fun w => and_congr_right fun hw => and_iff_right (hwithin w hw)
  observed_at i := by rw [h.observed_eq, getElem?_maskWindows]

/-! ## The loop of the comparison -/

/-- The codes with which the comparison enters the search. -/
def Search.start (observed candidate : List Char) : Search where
  candidate := candidate
  observed := if hasGuard candidate then maskGuard observed else observed

/-- What the comparison makes of the codes where the search ends. -/
def Search.outcome (s : Search) (regions : List Region) : Verdict :=
  match s.turn with
  | .cutShort pos => .truncatedPlaceholder pos
  | _ =>
    let candidate := stripMetadata (maskRegions regions s.candidate)
    if candidate = mark then .differs
    else if candidate.isPrefixOf (stripMetadata (maskRegions regions s.observed)) then .agrees
    else .differs

variable {observed candidate : List Char} {t : Search} {ws : List Nat}

/-- The comparison goes on where the loop ends. -/
theorem compareMasked_eq_outcome (h : Rounds (Search.start observed candidate) ws t)
    (hend : t.Finished) (regions : List Region) :
    compareMasked observed candidate regions = t.outcome regions := by
  rcases hend with hended | ⟨v, hcut⟩
  · have hws : windows candidate = .ok ws := h.windows_of_ended hended
    rw [compareMasked, hws, Search.outcome, hended, h.candidate_eq, h.observed_eq]
    rfl
  · have hws : windows candidate = .error v := h.windows_of_cutShort hcut
    rw [compareMasked, hws, Search.outcome, hcut]

/-- How the loop ends is a matter of the original candidate. -/
theorem Rounds.turn_eq_cutShort_iff {s : Search} (h : Rounds s ws t) (hend : t.Finished)
    {v : Nat} : t.turn = .cutShort v ↔ CutShort s.candidate 0 v := by
  rw [← windows_eq_error_iff]
  refine ⟨h.windows_of_cutShort, fun hv => ?_⟩
  rcases hend with hended | ⟨w, hw⟩
  · rw [h.windows_of_ended hended] at hv
    cases hv
  · rw [h.windows_of_cutShort hw] at hv
    cases hv
    exact hw

/-- **The search is a scan.**  Whatever the two codes are, the loop ends, after no more rounds than
forty goes into the length of the candidate; there is no other way for it to run, and the comparison
goes on where it ends.  The places that it finds are at least forty apart and are those of a scan of
the original candidate from left to right.  It ends with a window cut short exactly if that scan
comes to one.  Otherwise no two adjacent underscores are left, and both codes are what they were but
for zeros in the windows, in the observed code in those that end within it. -/
theorem search_is_scan (candidate observed : List Char) :
    ∃ ws t, Rounds ⟨candidate, observed⟩ ws t ∧ t.Finished ∧
      (∀ vs u, Rounds ⟨candidate, observed⟩ vs u → vs <+: ws) ∧
      ws.length ≤ candidate.length / 40 ∧
      ws.Pairwise (fun v w => v + 40 ≤ w) ∧
      (∃ p, Passes candidate 0 ws p) ∧
      (∀ code, Search.start code candidate = ⟨candidate, observed⟩ →
        ∀ regions, compareMasked code candidate regions = t.outcome regions) ∧
      (∀ v, t.turn = .cutShort v ↔ CutShort candidate 0 v) ∧
      ((∃ v, CutShort candidate 0 v) ∨
        t.turn = .ended ∧ Scan candidate 0 ws ∧ Cleaned ⟨candidate, observed⟩ t ws) := by
  obtain ⟨ws, t, h, hend⟩ := Rounds.exists_finished ⟨candidate, observed⟩
  obtain ⟨p, hp⟩ := h.passes
  have hcut : ∀ v, t.turn = .cutShort v ↔ CutShort candidate 0 v :=
    fun v => h.turn_eq_cutShort_iff hend
  refine ⟨ws, t, h, hend, fun vs u => h.isPrefix hend, h.length_le, hp.pairwise, ⟨p, hp⟩,
    fun code hcode => ?_, hcut, ?_⟩
  · rw [← hcode] at h
    exact compareMasked_eq_outcome h hend
  · rcases hend with hended | ⟨v, hv⟩
    · exact Or.inr ⟨hended, windows_eq_ok_iff.mp (h.windows_of_ended hended), h.cleaned hended⟩
    · exact Or.inl ⟨v, (hcut v).mp hv⟩

end EvmLocator.Bytecode
