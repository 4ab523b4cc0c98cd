import EvmLocator.Proofs.Bytecode.Comparison

/-!
# The shortcut for equal codes

A comparison does not mask codes that are equal: they agree.  Masked and stripped they would be
equal still, whatever the regions say, since the two codes go through the same steps and the guard
of a candidate leaves nothing to mask in the candidate itself.  So the long way agrees with the
shortcut, but for the two questions that it asks of the candidate alone: whether its last
placeholder is cut short, and whether anything is left of it.  Code that is nothing but a trailer is
one where nothing is.

## Main results

* `compareMasked_self`: the long way, for a code and itself.
* `compare_eq_compareMasked`: a comparison that has no use for its shortcut.
* `isMatch_self_iff`: exactly where the shortcut and the long way differ.
-/

namespace EvmLocator.Bytecode

variable (code : List Char) (regions : List Region)

/-- Nothing of a candidate is left to compare: masked and stripped, it is a mark alone. -/
def Vanishes : Prop :=
  ∃ ws, Scan code 0 ws ∧ core ws regions code = mark

/-- A code that is compared with itself is asked for its placeholders and for what is left of it,
and for nothing else. -/
theorem compareMasked_self :
    compareMasked code code regions =
      match windows code with
      | .error offset => .truncatedPlaceholder offset
      | .ok ws => if core ws regions code = mark then .differs else .agrees := by
  rw [compareMasked, guarded_self]
  cases windows code with
  | error offset => rfl
  | ok ws =>
      have hbegins : (core ws regions code).isPrefixOf (core ws regions code) = true :=
        List.isPrefixOf_iff_prefix.mpr (List.prefix_refl _)
      simp only [hbegins, if_true]

theorem compareMasked_self_eq_truncated_iff {offset : Nat} :
    compareMasked code code regions = .truncatedPlaceholder offset ↔ CutShort code 0 offset :=
  compareMasked_eq_truncated_iff

theorem compareMasked_self_eq_differs_iff :
    compareMasked code code regions = .differs ↔ Vanishes code regions := by
  rw [compareMasked_self]
  unfold Vanishes
  simp only [← windows_eq_ok_iff]
  cases windows code with
  | error cut => simp
  | ok ws =>
      simp only [Except.ok.injEq, exists_eq_left']
      by_cases hmark : core ws regions code = mark
      · rw [if_pos hmark]
        exact iff_of_true rfl hmark
      · rw [if_neg hmark]
        exact iff_of_false (by decide) hmark

theorem compareMasked_self_eq_agrees_iff :
    compareMasked code code regions = .agrees ↔
      ¬ ((∃ offset, CutShort code 0 offset) ∨ Vanishes code regions) := by
  simp only [← compareMasked_self_eq_truncated_iff code regions,
    ← compareMasked_self_eq_differs_iff]
  cases compareMasked code code regions <;> simp

theorem Verdict.isMatch_iff {v : Verdict} : v.isMatch = true ↔ v = .agrees := by
  cases v <;> simp [isMatch]

variable {code regions}

/-- Where the long way would say of a candidate that it agrees with itself, it decides. -/
theorem compare_eq_compareMasked {candidate : List Char} (hne : normalize candidate ≠ mark)
    (hself : compareMasked (normalize candidate) (normalize candidate) regions = .agrees)
    (observed : List Char) :
    compare observed candidate regions =
      compareMasked (normalize observed) (normalize candidate) regions := by
  simp only [compare, if_neg hne]
  split
  · next heq => rw [heq, hself]
  · rfl

/-- **The shortcut and the long way.**  Equal codes match unless there is no code.  The long way says
the same of them exactly if no placeholder is cut short and something is left to compare; it reports
the placeholder in the first case, and a difference in the second. -/
theorem isMatch_self_iff (h : normalize code ≠ mark) (regions : List Region) :
    (compare code code regions).isMatch = true ∧
      ((compareMasked (normalize code) (normalize code) regions).isMatch = true ↔
        ¬ ((∃ offset, CutShort (normalize code) 0 offset) ∨
          Vanishes (normalize code) regions)) ∧
      (∀ offset, compareMasked (normalize code) (normalize code) regions =
        .truncatedPlaceholder offset ↔ CutShort (normalize code) 0 offset) ∧
      (compareMasked (normalize code) (normalize code) regions = .differs ↔
        Vanishes (normalize code) regions) := by
  refine ⟨?_, ?_, fun offset => compareMasked_self_eq_truncated_iff _ _,
    compareMasked_self_eq_differs_iff _ _⟩
  · simp only [compare, if_neg h, if_true, Verdict.isMatch]
  · rw [Verdict.isMatch_iff]
    exact compareMasked_self_eq_agrees_iff _ _

/-- Both exceptions occur: two underscores are a placeholder cut short, and of a trailer alone
nothing is left. -/
theorem isMatch_self_iff_sample :
    normalize ['_', '_'] ≠ mark ∧ normalize Sample.trailer ≠ mark ∧
      (compare ['_', '_'] ['_', '_'] []).isMatch = true ∧
      CutShort (normalize ['_', '_']) 0 2 ∧
      (compare Sample.trailer Sample.trailer []).isMatch = true ∧
      Vanishes (normalize Sample.trailer) [] := by
  have hcut : normalize ['_', '_'] ≠ mark := by decide +kernel
  have htrailer : normalize Sample.trailer ≠ mark := by decide +kernel
  obtain ⟨hmatch, -, htruncated, -⟩ := isMatch_self_iff hcut []
  obtain ⟨hmatch', -, -, hvanishes⟩ := isMatch_self_iff htrailer []
  exact ⟨hcut, htrailer, hmatch, (htruncated 2).mp (by decide +kernel), hmatch',
    hvanishes.mp (by decide +kernel)⟩

end EvmLocator.Bytecode
