import EvmLocator.Session.Lookup
import Mathlib.Data.List.Forall2

/-!
# Induction over lookups side by side

Lookups side by side run in three stages: each up to its waiting point, then those that wait in the
order in which they are resumed, then any that the order left out.  What is shown of such a run is
shown in the same way each time, by saying what holds of the session between two pieces, what is
known of a lookup while it waits, and what becomes of its answer.  `Rules` states the three
obligations that this leaves, one for each way in which a piece of a lookup can end, and
`gather_induction` is the conclusion for the whole run.

The order is nowhere mentioned in the obligations, so what they give holds in every order.

## Main results

* `gather_induction`: what the pieces of lookups keep holds after them, and every lookup has the
  answer that its pieces give it.
-/

namespace EvmLocator

/-! ## Lists that correspond -/

theorem forall₂_getElem? {α β : Type} {R : α → β → Prop} {xs : List α} {ys : List β}
    (h : List.Forall₂ R xs ys) {i : Nat} {y : β} (hy : ys[i]? = some y) :
    ∃ x, xs[i]? = some x ∧ R x y := by
  induction h generalizing i with
  | nil => cases hy
  | cons hhead _ ih =>
      cases i with
      | zero =>
          cases Option.some.inj hy
          exact ⟨_, rfl, hhead⟩
      | succ i => exact ih hy

theorem forall₂_set {α β : Type} {R : α → β → Prop} {xs : List α} {ys : List β}
    (h : List.Forall₂ R xs ys) {i : Nat} {y : β} (hy : ∀ x, xs[i]? = some x → R x y) :
    List.Forall₂ R xs (ys.set i y) := by
  induction h generalizing i with
  | nil => exact .nil
  | cons hhead hrest ih =>
      cases i with
      | zero => exact .cons (hy _ rfl) hrest
      | succ i => exact .cons hhead (ih hy)

/-! ## Lookups under way -/

/-- What is known of a lookup among others: its answer, or that it waits. -/
inductive Slot.Due (W : Lookup → Prop) (R : Lookup → Except Fault Location → Prop) (q : Lookup) :
    Slot → Prop
  | finished {answer : Except Fault Location} (answered : R q answer) : Due W R q (.finished answer)
  | waiting (waits : W q) : Due W R q (.waiting q)

namespace Gathering

/-- The obligations of an induction over lookups side by side: `P` holds of the session between
two pieces, `W` of a lookup that waits, and `R` between a lookup and its answer. -/
structure Rules (L : Lookup → Prop) (P : Session → Prop) (W : Lookup → Prop)
    (R : Lookup → Except Fault Location → Prop) : Prop where
  finishes : ∀ {s q step}, L q → P s → s.begin q = .finished step →
    R q step.answer ∧ P step.session
  waits : ∀ {s q}, L q → P s → s.begin q = .waiting → W q
  resumes : ∀ {s q}, P s → W q → R q (s.resume q).answer ∧ P (s.resume q).session

variable {L : Lookup → Prop} {P : Session → Prop} {W : Lookup → Prop}
  {R : Lookup → Except Fault Location → Prop} {s : Session} {lookups : List Lookup}
  {slots : List Slot} {g : Gathering}

theorem Rules.launch (rules : Rules L P W R) (hL : ∀ q ∈ lookups, L q) (h : P s) :
    List.Forall₂ (Slot.Due W R) lookups (launch s lookups).slots ∧
      P (launch s lookups).session := by
  induction lookups generalizing s with
  | nil => exact ⟨.nil, h⟩
  | cons q rest ih =>
      have hq := hL q List.mem_cons_self
      have hrest : ∀ q ∈ rest, L q := fun q hq => hL q (List.mem_cons_of_mem _ hq)
      unfold Gathering.launch
      cases hbegin : s.begin q with
      | finished step =>
          obtain ⟨hanswer, hstep⟩ := rules.finishes hq h hbegin
          obtain ⟨hothers, hlast⟩ := ih hrest hstep
          exact ⟨.cons (.finished hanswer) hothers, hlast⟩
      | waiting =>
          obtain ⟨hothers, hlast⟩ := ih hrest h
          exact ⟨.cons (.waiting (rules.waits hq h hbegin)) hothers, hlast⟩

/-- A lookup that waits is known to. -/
theorem waits_of_getElem? (h : List.Forall₂ (Slot.Due W R) lookups slots) {i : Nat} {q : Lookup}
    (hslot : slots[i]? = some (.waiting q)) : lookups[i]? = some q ∧ W q := by
  obtain ⟨q', hq', hdue⟩ := forall₂_getElem? h hslot
  cases hdue with
  | waiting waits => exact ⟨hq', waits⟩

theorem Rules.resumeAt (rules : Rules L P W R)
    (h : List.Forall₂ (Slot.Due W R) lookups g.slots ∧ P g.session) (i : Nat) :
    List.Forall₂ (Slot.Due W R) lookups (g.resumeAt i).slots ∧ P (g.resumeAt i).session := by
  unfold Gathering.resumeAt
  split
  · next q hslot =>
      obtain ⟨hlookup, hwaits⟩ := waits_of_getElem? h.1 hslot
      obtain ⟨hanswer, hstep⟩ := rules.resumes h.2 hwaits
      refine ⟨forall₂_set h.1 ?_, hstep⟩
      intro q' hq'
      cases Option.some.inj (hlookup.symm.trans hq')
      exact .finished hanswer
  · exact h

theorem Rules.foldl_resumeAt (rules : Rules L P W R)
    (h : List.Forall₂ (Slot.Due W R) lookups g.slots ∧ P g.session) (order : List Nat) :
    List.Forall₂ (Slot.Due W R) lookups (order.foldl Gathering.resumeAt g).slots ∧
      P (order.foldl Gathering.resumeAt g).session := by
  induction order generalizing g with
  | nil => exact h
  | cons i order ih => exact ih (rules.resumeAt h i)

theorem Rules.finish (rules : Rules L P W R)
    (hslots : List.Forall₂ (Slot.Due W R) lookups slots) (h : P s) :
    List.Forall₂ R lookups (finish s slots).2.2 ∧ P (finish s slots).1 := by
  induction hslots generalizing s with
  | nil => exact ⟨.nil, h⟩
  | cons hdue _ ih =>
      cases hdue with
      | finished answered =>
          obtain ⟨hothers, hlast⟩ := ih h
          exact ⟨.cons answered hothers, hlast⟩
      | waiting waits =>
          obtain ⟨hanswer, hstep⟩ := rules.resumes h waits
          obtain ⟨hothers, hlast⟩ := ih hstep
          exact ⟨.cons hanswer hothers, hlast⟩

end Gathering

/-- **Induction over lookups side by side.**  What holds between any two pieces of the lookups
holds after them, and each lookup has an answer that its pieces give it, in whatever order those
that wait are resumed. -/
theorem Session.gather_induction {L : Lookup → Prop} {P : Session → Prop} {W : Lookup → Prop}
    {R : Lookup → Except Fault Location → Prop} (rules : Gathering.Rules L P W R) {s : Session}
    (order : List Nat) {lookups : List Lookup} (hL : ∀ q ∈ lookups, L q) (h : P s) :
    ∃ answers, (s.gather order lookups).answer = .ok answers ∧ List.Forall₂ R lookups answers ∧
      P (s.gather order lookups).session := by
  have hresumed := rules.foldl_resumeAt (rules.launch hL h) order
  obtain ⟨hanswers, hlast⟩ := rules.finish hresumed.1 hresumed.2
  exact ⟨_, rfl, hanswers, hlast⟩

end EvmLocator
