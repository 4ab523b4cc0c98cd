/-!
# Results and faults

A reading ends in a result or in a fault.  Readings that are chained end in the first fault, and
readings of the items of a list that all succeed have the results of the items.
-/

namespace EvmLocator

/-- Where conditions on results and on faults are exhaustive, and each of them determines the
outcome, they say when an outcome occurs. -/
theorem iff_of_exhaustive {ε α : Type} {outcome : Except ε α} {P : α → Prop} {Q : ε → Prop}
    (hok : ∀ a, P a → outcome = .ok a) (herror : ∀ e, Q e → outcome = .error e)
    (h : (∃ a, P a) ∨ ∃ e, Q e) :
    (∀ a, outcome = .ok a ↔ P a) ∧ ∀ e, outcome = .error e ↔ Q e := by
  rcases h with ⟨b, hb⟩ | ⟨e, he⟩
  · refine ⟨fun a => ⟨fun ha => ?_, hok a⟩, fun e => ⟨fun he => ?_, herror e⟩⟩
    · rw [hok b hb, Except.ok.injEq] at ha
      rwa [← ha]
    · rw [hok b hb] at he
      cases he
  · refine ⟨fun a => ⟨fun ha => ?_, hok a⟩, fun e' => ⟨fun he' => ?_, herror e'⟩⟩
    · rw [herror e he] at ha
      cases ha
    · rw [herror e he, Except.error.injEq] at he'
      rwa [← he']

/-- A chain of two fails where one of them does. -/
theorem error_of_bind {ε α β : Type} {x : Except ε α} {f : α → Except ε β} {e : ε}
    (h : (x >>= f) = .error e) : x = .error e ∨ ∃ a, x = .ok a ∧ f a = .error e := by
  cases x with
  | error e' =>
      cases h
      exact Or.inl rfl
  | ok a => exact Or.inr ⟨a, rfl, h⟩

/-- A chain of two succeeds where both of them do. -/
theorem ok_of_bind {ε α β : Type} {x : Except ε α} {f : α → Except ε β} {b : β}
    (h : (x >>= f) = .ok b) : ∃ a, x = .ok a ∧ f a = .ok b := by
  cases x with
  | error e => cases h
  | ok a => exact ⟨a, rfl, h⟩

/-- Readings that agree on the items of a list agree on the list. -/
theorem mapM_congr {ε α β : Type} {f g : α → Except ε β} {xs : List α}
    (h : ∀ x ∈ xs, f x = g x) : xs.mapM f = xs.mapM g := by
  induction xs with
  | nil => rfl
  | cons x xs ih =>
      rw [List.mapM_cons, List.mapM_cons, h x List.mem_cons_self,
        ih fun y hy => h y (List.mem_cons_of_mem _ hy)]

/-- Where every item is read, the results are those of the items. -/
theorem map_of_mapM_eq_ok {ε α β : Type} {f : α → Except ε β} {xs : List α} {ys : List β}
    (h : xs.mapM f = .ok ys) : xs.map f = ys.map .ok := by
  induction xs generalizing ys with
  | nil =>
      cases h
      rfl
  | cons x xs ih =>
      rw [List.mapM_cons] at h
      cases hx : f x with
      | error e =>
          rw [hx] at h
          cases h
      | ok y =>
          cases hxs : xs.mapM f with
          | error e =>
              rw [hx, hxs] at h
              cases h
          | ok later =>
              rw [hx, hxs] at h
              cases h
              rw [List.map_cons, List.map_cons, hx, ih hxs]

end EvmLocator
