import EvmLocator.Catalog.Basic
import EvmLocator.Proofs.Bytecode.Normal

/-!
# The contract that a code is attributed to

A code is attributed to the first contract, in catalog order, that accounts for it.  The search
goes through the artifacts that may account for a code, which leaves out contracts on the way; the
statements here are about the contracts of the catalog themselves.

## Main results

* `fst_search_eq_some_iff`: what the search finds.
* `fst_search_eq_none_iff`: when it finds nothing.
* `attributes_normalize`: a code and its normal form are attributed alike.
-/

namespace EvmLocator

/-- Whether a contract accounts for a code by an artifact: that of its creation, or the deployed
one.  A contract that is never deployed accounts for nothing. -/
structure Accounts (creation : Bool) (observed : List Char) (contract : Contract) (a : Artifact) :
    Prop where
  deployed : contract.deployed.isSome = true
  selected : contract.artifact? creation = some a
  isMatch : (Bytecode.compare observed a.object.toList a.wildcards).isMatch = true

namespace Catalog

/-- Whether a code is attributed to an artifact: that of the first contract that accounts for the
code. -/
def Attributes (c : Catalog) (creation : Bool) (observed : List Char) (a : Artifact) : Prop :=
  ∃ before entry after, c.contracts = before ++ entry :: after ∧
    Accounts creation observed entry.2.2 a ∧
    ∀ other ∈ before, ∀ b, ¬ Accounts creation observed other.2.2 b

/-- The artifact of a contract that may account for a code. -/
def candidate? (creation : Bool) (entry : String × String × Contract) : Option Artifact :=
  if entry.2.2.deployed.isSome then entry.2.2.artifact? creation else none

theorem accounts_iff {creation : Bool} {observed : List Char} {entry : String × String × Contract}
    {a : Artifact} :
    Accounts creation observed entry.2.2 a ↔
      candidate? creation entry = some a ∧ (compareWith observed a).isMatch = true := by
  unfold candidate? compareWith
  constructor
  · intro h
    rw [if_pos h.deployed]
    exact ⟨h.selected, h.isMatch⟩
  · rintro ⟨hcandidate, hmatch⟩
    split at hcandidate
    · next hdeployed => exact ⟨hdeployed, hcandidate, hmatch⟩
    · cases hcandidate

/-- Whether a contract accounts for a code, as the search decides it. -/
theorem any_candidate?_iff {creation : Bool} {observed : List Char}
    {entry : String × String × Contract} :
    (candidate? creation entry).any (fun a => (compareWith observed a).isMatch) = true ↔
      ∃ a, Accounts creation observed entry.2.2 a := by
  simp only [accounts_iff]
  cases candidate? creation entry with
  | none => simp
  | some a => simp

theorem fst_search_candidates (c : Catalog) (creation : Bool) (observed : List Char) :
    (search observed (c.candidates creation)).1 =
      (c.contracts.find? fun entry =>
        (candidate? creation entry).any fun a => (compareWith observed a).isMatch).bind
          (candidate? creation) := by
  rw [fst_search]
  exact List.find?_filterMap

/-- The search finds the artifact that the code is attributed to. -/
theorem fst_search_eq_some_iff {c : Catalog} {creation : Bool} {observed : List Char}
    {a : Artifact} :
    (search observed (c.candidates creation)).1 = some a ↔ c.Attributes creation observed a := by
  rw [fst_search_candidates, Option.bind_eq_some_iff]
  simp only [List.find?_eq_some_iff_append, any_candidate?_iff]
  constructor
  · rintro ⟨entry, ⟨⟨b, hb⟩, before, after, hsplit, hbefore⟩, ha⟩
    obtain ⟨hcandidate, hmatch⟩ := accounts_iff.mp hb
    obtain rfl : b = a := Option.some.inj (hcandidate.symm.trans ha)
    refine ⟨before, entry, after, hsplit, hb, fun other hother d hd => ?_⟩
    have hnone := hbefore other hother
    rw [any_candidate?_iff.mpr ⟨d, hd⟩] at hnone
    cases hnone
  · rintro ⟨before, entry, after, hsplit, ha, hbefore⟩
    refine ⟨entry, ⟨⟨a, ha⟩, before, after, hsplit, fun other hother => ?_⟩,
      (accounts_iff.mp ha).1⟩
    rw [Bool.not_eq_true', Bool.eq_false_iff]
    intro hany
    obtain ⟨d, hd⟩ := any_candidate?_iff.mp hany
    exact hbefore other hother d hd

/-- The search finds nothing exactly if no contract accounts for the code. -/
theorem fst_search_eq_none_iff {c : Catalog} {creation : Bool} {observed : List Char} :
    (search observed (c.candidates creation)).1 = none ↔
      ∀ entry ∈ c.contracts, ∀ a, ¬ Accounts creation observed entry.2.2 a := by
  rw [fst_search, List.find?_eq_none]
  constructor
  · intro h entry hentry a ha
    obtain ⟨hcandidate, hmatch⟩ := accounts_iff.mp ha
    exact h a (List.mem_filterMap.mpr ⟨entry, hentry, hcandidate⟩) hmatch
  · intro h a ha hmatch
    obtain ⟨entry, hentry, hcandidate⟩ := List.mem_filterMap.mp ha
    exact h entry hentry a (accounts_iff.mpr ⟨hcandidate, hmatch⟩)

/-- A code and its normal form are attributed alike. -/
theorem attributes_normalize {c : Catalog} {creation : Bool} {observed : List Char}
    {a : Artifact} :
    c.Attributes creation (Bytecode.normalize observed) a ↔ c.Attributes creation observed a := by
  have hcompare : ∀ b : Artifact, compareWith (Bytecode.normalize observed) b =
      compareWith observed b := by
    intro b
    simp only [compareWith, Bytecode.compare, Bytecode.normalize_normalize]
  have haccounts : ∀ (entry : String × String × Contract) (b : Artifact),
      Accounts creation (Bytecode.normalize observed) entry.2.2 b ↔
        Accounts creation observed entry.2.2 b := by
    intro entry b
    rw [accounts_iff, accounts_iff, hcompare]
  simp only [Attributes, haccounts]

theorem attributes_or_not_accounts (c : Catalog) (creation : Bool) (observed : List Char) :
    (∃ a, c.Attributes creation observed a) ∨
      ∀ entry ∈ c.contracts, ∀ a, ¬ Accounts creation observed entry.2.2 a := by
  cases hsearch : (search observed (c.candidates creation)).1 with
  | none => exact Or.inr (fst_search_eq_none_iff.mp hsearch)
  | some a => exact Or.inl ⟨a, fst_search_eq_some_iff.mp hsearch⟩

end Catalog

end EvmLocator
