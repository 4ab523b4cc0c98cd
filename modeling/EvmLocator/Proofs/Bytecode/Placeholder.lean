import EvmLocator.Proofs.Bytecode.Overwrite

/-!
# Placeholders are found in one scan

The search for placeholders starts over after every window that it has overwritten.  What it finds
can be said of the original code alone, in one pass from left to right: the first two adjacent
underscores open a window, and the scan goes on behind it.  `Scan` is that pass as a relation, so
that no statement about placeholders needs to mention a code that is half overwritten.

The two agree because of an invariant of the search: behind the last window the code is still the
original one, and before the end of that window it has no two adjacent underscores left.

## Main results

* `windows_eq_ok_iff`: the search finds exactly the windows of the scan.
* `windows_eq_error_iff`: the search fails exactly where the scan finds a window cut short.
* `Scan.pairwise`, `Scan.opens_of_mem`, `Scan.within_of_mem`: the windows are disjoint, in order,
  inside the code, and each begins with two underscores.
* `scan_of_layout`: windows laid out like that are those of the scan, if no other place of the code
  holds an underscore.
-/

namespace EvmLocator.Bytecode

/-- Whether two adjacent underscores stand at a place of a code. -/
def PairAt (code : List Char) (pos : Nat) : Prop :=
  code[pos]? = some '_' ∧ code[pos + 1]? = some '_'

instance (code : List Char) (pos : Nat) : Decidable (PairAt code pos) := by
  unfold PairAt
  infer_instance

/-- The places of the windows that a scan of a code from the place `p` on opens, when none of them
is cut short. -/
inductive Scan (code : List Char) : Nat → List Nat → Prop where
  | done {p : Nat} (clear : ∀ q, p ≤ q → ¬ PairAt code q) : Scan code p []
  | window {p w : Nat} {ws : List Nat} (ahead : p ≤ w) (opens : PairAt code w)
      (first : ∀ q, p ≤ q → q < w → ¬ PairAt code q)
      (within : w + placeholderLength ≤ code.length)
      (rest : Scan code (w + placeholderLength) ws) : Scan code p (w :: ws)

/-- A scan of a code from the place `p` on comes to a window that the code cuts short, at the place
`v`. -/
inductive CutShort (code : List Char) : Nat → Nat → Prop where
  | here {p v : Nat} (ahead : p ≤ v) (opens : PairAt code v)
      (first : ∀ q, p ≤ q → q < v → ¬ PairAt code q)
      (short : code.length < v + placeholderLength) : CutShort code p v
  | behind {p w v : Nat} (ahead : p ≤ w) (opens : PairAt code w)
      (first : ∀ q, p ≤ q → q < w → ¬ PairAt code q)
      (within : w + placeholderLength ≤ code.length)
      (rest : CutShort code (w + placeholderLength) v) : CutShort code p v

/-! ## The first pair of underscores -/

theorem pairAt_zero {c : Char} {rest : List Char} :
    PairAt (c :: rest) 0 ↔ c = '_' ∧ rest.head? = some '_' := by
  rw [PairAt, List.getElem?_cons_zero, List.getElem?_cons_succ, Option.some.injEq,
    List.head?_eq_getElem?]

theorem pairAt_succ {c : Char} {rest : List Char} {n : Nat} :
    PairAt (c :: rest) (n + 1) ↔ PairAt rest n := by
  rw [PairAt, PairAt, List.getElem?_cons_succ, List.getElem?_cons_succ]

theorem findPlaceholder_cons (c : Char) (rest : List Char) :
    findPlaceholder (c :: rest) =
      if PairAt (c :: rest) 0 then some 0 else (findPlaceholder rest).map fun n => n + 1 := by
  simp only [findPlaceholder, pairAt_zero]

theorem findPlaceholder_eq_none_iff {code : List Char} :
    findPlaceholder code = none ↔ ∀ q, ¬ PairAt code q := by
  induction code with
  | nil => simp [findPlaceholder, PairAt]
  | cons c rest ih =>
      rw [findPlaceholder_cons]
      constructor
      · intro h q
        split at h
        · cases h
        · next h0 =>
            cases q with
            | zero => exact h0
            | succ q =>
                rw [pairAt_succ]
                exact ih.mp (Option.map_eq_none_iff.mp h) q
      · intro h
        rw [if_neg (h 0), Option.map_eq_none_iff, ih]
        exact fun q hq => h (q + 1) (pairAt_succ.mpr hq)

theorem findPlaceholder_eq_some_iff {code : List Char} {pos : Nat} :
    findPlaceholder code = some pos ↔ PairAt code pos ∧ ∀ q < pos, ¬ PairAt code q := by
  induction code generalizing pos with
  | nil => simp [findPlaceholder, PairAt]
  | cons c rest ih =>
      rw [findPlaceholder_cons]
      by_cases h0 : PairAt (c :: rest) 0
      · rw [if_pos h0]
        constructor
        · intro h
          cases h
          exact ⟨h0, fun q hq => absurd hq (Nat.not_lt_zero q)⟩
        · rintro ⟨-, hfirst⟩
          cases pos with
          | zero => rfl
          | succ n => exact absurd h0 (hfirst 0 n.succ_pos)
      · rw [if_neg h0, Option.map_eq_some_iff]
        constructor
        · rintro ⟨n, hn, rfl⟩
          obtain ⟨hpair, hfirst⟩ := ih.mp hn
          refine ⟨pairAt_succ.mpr hpair, fun q hq => ?_⟩
          cases q with
          | zero => exact h0
          | succ q =>
              rw [pairAt_succ]
              exact hfirst q (by omega)
        · rintro ⟨hpair, hfirst⟩
          cases pos with
          | zero => exact absurd hpair h0
          | succ n =>
              refine ⟨n, ih.mpr ⟨pairAt_succ.mp hpair, fun q hq => ?_⟩, rfl⟩
              rw [← pairAt_succ (c := c)]
              exact hfirst (q + 1) (by omega)

/-! ## The search and the scan -/

/-- The state of the search after its windows up to the place `p`. -/
structure Cleared (original code : List Char) (p : Nat) : Prop where
  length_eq : code.length = original.length
  same : ∀ q, p ≤ q → code[q]? = original[q]?
  clear : ∀ q, q < p → ¬ PairAt code q

namespace Cleared

variable {original code : List Char} {p : Nat}

theorem initial (code : List Char) : Cleared code code 0 where
  length_eq := rfl
  same _ _ := rfl
  clear q hq := absurd hq (Nat.not_lt_zero q)

theorem pairAt_iff (h : Cleared original code p) {q : Nat} (hq : p ≤ q) :
    PairAt code q ↔ PairAt original q := by
  rw [PairAt, PairAt, h.same q hq, h.same (q + 1) (by omega)]

theorem le_of_pairAt (h : Cleared original code p) {q : Nat} (hq : PairAt code q) : p ≤ q :=
  Nat.not_lt.mp fun hlt => h.clear q hlt hq

/-- One window of the search: before it nothing was open, in it everything is overwritten. -/
theorem step (h : Cleared original code p) {w : Nat} (hw : PairAt code w)
    (hfirst : ∀ q < w, ¬ PairAt code q) (hwithin : w + placeholderLength ≤ code.length) :
    Cleared original (zeroRegion code w placeholderLength) (w + placeholderLength) := by
  have hp := h.le_of_pairAt hw
  have hplace : ∀ i : Nat, (zeroRegion code w placeholderLength)[i]? =
      if (windowAt w).Within code.length ∧ (windowAt w).Covers i then some '0' else code[i]? :=
    getElem?_zeroRegion code (windowAt w)
  refine ⟨by rw [length_zeroRegion_of_nat, h.length_eq], fun q hq => ?_, fun q hq hpair => ?_⟩
  · rw [hplace, if_neg, h.same q (by omega)]
    rintro ⟨-, -, hlt⟩
    exact absurd hlt (by simp only [windowAt]; omega)
  · -- A pair that is left before the end of the window was one before the window was overwritten.
    have hold : ∀ i : Nat, (zeroRegion code w placeholderLength)[i]? = some '_' →
        code[i]? = some '_' := by
      intro i hi
      rw [hplace] at hi
      split at hi
      · exact absurd hi (by decide)
      · exact hi
    have hq' : PairAt code q := ⟨hold q hpair.1, hold (q + 1) hpair.2⟩
    have hwq : w ≤ q := Nat.not_lt.mp fun hlt => hfirst q hlt hq'
    have hzero := hpair.1
    rw [hplace, if_pos ⟨hwithin, hwq, hq⟩] at hzero
    exact absurd hzero (by decide)

/-- The first pair of the scan is the one that the search finds. -/
theorem eq_of_first (h : Cleared original code p) {v w : Nat} (hw : PairAt code w)
    (hfirst : ∀ q < w, ¬ PairAt code q) (ahead : p ≤ v) (opens : PairAt original v)
    (first : ∀ q, p ≤ q → q < v → ¬ PairAt original q) : v = w := by
  have hp := h.le_of_pairAt hw
  rcases Nat.lt_trichotomy v w with hlt | heq | hgt
  · exact absurd ((h.pairAt_iff ahead).mpr opens) (hfirst v hlt)
  · exact heq
  · exact absurd ((h.pairAt_iff hp).mp hw) (first w hp hgt)

/-- What the search has not found before its next pair is not in the original code either. -/
theorem not_pairAt_of_first (h : Cleared original code p) {w : Nat}
    (hfirst : ∀ q < w, ¬ PairAt code q) : ∀ q, p ≤ q → q < w → ¬ PairAt original q :=
  fun q hq hlt => (not_congr (h.pairAt_iff hq)).mp (hfirst q hlt)

end Cleared

section

variable {original code : List Char} {p w : Nat}

/-- The scan opens its next window where the search finds the next pair. -/
theorem scan_iff {ws : List Nat} (h : Cleared original code p) (hw : PairAt code w)
    (hfirst : ∀ q < w, ¬ PairAt code q) :
    Scan original p ws ↔ w + placeholderLength ≤ code.length ∧
      ∃ rest, ws = w :: rest ∧ Scan original (w + placeholderLength) rest := by
  have hp := h.le_of_pairAt hw
  have hopens := (h.pairAt_iff hp).mp hw
  rw [h.length_eq]
  constructor
  · intro hscan
    cases hscan with
    | done clear => exact absurd hopens (clear w hp)
    | window ahead opens first within rest =>
        obtain rfl := h.eq_of_first hw hfirst ahead opens first
        exact ⟨within, _, rfl, rest⟩
  · rintro ⟨hwithin, rest, rfl, hrest⟩
    exact .window hp hopens (h.not_pairAt_of_first hfirst) hwithin hrest

/-- The scan comes to a window cut short at the next pair of the search, or behind its window. -/
theorem cutShort_iff {v : Nat} (h : Cleared original code p) (hw : PairAt code w)
    (hfirst : ∀ q < w, ¬ PairAt code q) :
    CutShort original p v ↔
      (code.length < w + placeholderLength ∧ v = w) ∨
        (w + placeholderLength ≤ code.length ∧ CutShort original (w + placeholderLength) v) := by
  have hp := h.le_of_pairAt hw
  rw [h.length_eq]
  constructor
  · intro hcut
    cases hcut with
    | here ahead opens first short =>
        obtain rfl := h.eq_of_first hw hfirst ahead opens first
        exact Or.inl ⟨short, rfl⟩
    | behind ahead opens first within rest =>
        obtain rfl := h.eq_of_first hw hfirst ahead opens first
        exact Or.inr ⟨within, rest⟩
  · rintro (⟨hshort, rfl⟩ | ⟨hwithin, hrest⟩)
    · exact .here hp ((h.pairAt_iff hp).mp hw) (h.not_pairAt_of_first hfirst) hshort
    · exact .behind hp ((h.pairAt_iff hp).mp hw) (h.not_pairAt_of_first hfirst) hwithin hrest

end

/-- From any state of the search on, what is still found are the windows of the scan, and the search
fails where the scan comes to a window cut short. -/
theorem windows_iff_of_cleared {original code : List Char} {p : Nat}
    (h : Cleared original code p) :
    (∀ ws, windows code = .ok ws ↔ Scan original p ws) ∧
      ∀ v, windows code = .error v ↔ CutShort original p v := by
  -- Every round of the search overwrites two underscores.
  induction hn : code.count '_' using Nat.strongRecOn generalizing code p with
  | ind n ih =>
      subst hn
      cases hfind : findPlaceholder code with
      | none =>
          have hclear := findPlaceholder_eq_none_iff.mp hfind
          have hnone : ∀ q, p ≤ q → ¬ PairAt original q :=
            fun q hq => (not_congr (h.pairAt_iff hq)).mp (hclear q)
          rw [windows_of_none hfind]
          refine ⟨fun ws => ⟨fun hws => ?_, fun hscan => ?_⟩, fun v => iff_of_false nofun ?_⟩
          · cases hws
            exact .done hnone
          · cases hscan with
            | done _ => rfl
            | window ahead opens _ _ _ => exact absurd opens (hnone _ ahead)
          · intro hcut
            cases hcut with
            | here ahead opens _ _ => exact hnone _ ahead opens
            | behind ahead opens _ _ _ => exact hnone _ ahead opens
      | some w =>
          obtain ⟨hpair, hfirst⟩ := findPlaceholder_eq_some_iff.mp hfind
          rw [windows_of_some hfind]
          simp only [scan_iff h hpair hfirst, cutShort_iff h hpair hfirst]
          by_cases hcut : code.length < w + placeholderLength
          · have hnot : ¬ w + placeholderLength ≤ code.length := Nat.not_le.mpr hcut
            simp [hcut, hnot, eq_comm]
          · have hwithin := Nat.not_lt.mp hcut
            obtain ⟨hok, herror⟩ :=
              ih _ (count_zeroRegion_lt hfind hcut) (h.step hpair hfirst hwithin) rfl
            rw [if_neg hcut]
            simp only [← hok, ← herror]
            cases windows (zeroRegion code w placeholderLength) with
            | error cut => simp [hwithin, hcut]
            | ok rest => simp [hwithin, hcut, eq_comm]

/-- The search finds exactly the windows of the scan. -/
theorem windows_eq_ok_iff {code : List Char} {ws : List Nat} :
    windows code = .ok ws ↔ Scan code 0 ws :=
  (windows_iff_of_cleared (Cleared.initial code)).1 ws

/-- The search fails exactly where the scan comes to a window cut short. -/
theorem windows_eq_error_iff {code : List Char} {v : Nat} :
    windows code = .error v ↔ CutShort code 0 v :=
  (windows_iff_of_cleared (Cleared.initial code)).2 v

theorem Scan.unique {code : List Char} {vs ws : List Nat} (hv : Scan code 0 vs)
    (hw : Scan code 0 ws) : vs = ws := by
  rw [← windows_eq_ok_iff] at hv hw
  rw [hv, Except.ok.injEq] at hw
  exact hw

/-! ## The windows of a scan -/

namespace Scan

variable {code : List Char} {p : Nat} {ws : List Nat}

theorem le_of_mem (h : Scan code p ws) : ∀ w ∈ ws, p ≤ w := by
  induction h with
  | done _ => simp
  | window ahead _ _ _ _ ih =>
      intro w hw
      rcases List.mem_cons.mp hw with rfl | hw
      · exact ahead
      · have := ih w hw
        omega

theorem pairwise (h : Scan code p ws) :
    ws.Pairwise fun v w => v + placeholderLength ≤ w := by
  induction h with
  | done _ => exact List.Pairwise.nil
  | window _ _ _ _ rest ih => exact List.Pairwise.cons (fun w hw => rest.le_of_mem w hw) ih

theorem opens_of_mem (h : Scan code p ws) : ∀ w ∈ ws, PairAt code w := by
  induction h with
  | done _ => simp
  | window _ opens _ _ _ ih => exact List.forall_mem_cons.mpr ⟨opens, ih⟩

theorem within_of_mem (h : Scan code p ws) : ∀ w ∈ ws, w + placeholderLength ≤ code.length := by
  induction h with
  | done _ => simp
  | window _ _ _ within _ ih => exact List.forall_mem_cons.mpr ⟨within, ih⟩

end Scan

/-- Placeholders of a code: windows in order, complete and disjoint, each of which begins with two
underscores. -/
structure Layout (code : List Char) (ws : List Nat) : Prop where
  opens : ∀ w ∈ ws, PairAt code w
  within : ∀ w ∈ ws, w + placeholderLength ≤ code.length
  disjoint : ws.Pairwise fun v w => v + placeholderLength ≤ w

/-- If no underscore stands outside the windows of a layout, the scan opens just these windows. -/
theorem scan_of_layout {code : List Char} {p : Nat} {ws : List Nat} (h : Layout code ws)
    (hp : ∀ w ∈ ws, p ≤ w)
    (hclear : ∀ q, p ≤ q → code[q]? = some '_' → ∃ w ∈ ws, (windowAt w).Covers q) :
    Scan code p ws := by
  induction ws generalizing p with
  | nil =>
      refine .done fun q hq hpair => ?_
      obtain ⟨w, hw, -⟩ := hclear q hq hpair.1
      cases hw
  | cons w ws ih =>
      have hbehind : ∀ v ∈ ws, w + placeholderLength ≤ v :=
        fun v hv => List.rel_of_pairwise_cons h.disjoint hv
      refine .window (hp w (by simp)) (h.opens w (by simp)) ?_ (h.within w (by simp)) ?_
      · intro q hq hlt hpair
        obtain ⟨v, hv, hge, -⟩ := hclear q hq hpair.1
        rcases List.mem_cons.mp hv with rfl | hv
        · simp only [windowAt] at hge
          omega
        · have := hbehind v hv
          simp only [windowAt] at hge
          omega
      · refine ih ⟨fun v hv => h.opens v (by simp [hv]), fun v hv => h.within v (by simp [hv]),
          h.disjoint.of_cons⟩ hbehind ?_
        intro q hq hunderscore
        have hpw := hp w (by simp)
        obtain ⟨v, hv, hcov⟩ := hclear q (by omega) hunderscore
        rcases List.mem_cons.mp hv with rfl | hv
        · exact absurd hcov.2 (by simp only [windowAt]; omega)
        · exact ⟨v, hv, hcov⟩

end EvmLocator.Bytecode
