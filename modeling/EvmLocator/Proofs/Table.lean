import EvmLocator.Table
import Mathlib.Data.List.Nodup

/-!
# Tables written from a list of entries

A table that is written entry by entry answers with the last entry of each key.  The place of the
key in the table is that of its first entry, which reading does not show.

## Main results

* `get?_put`: what a table answers after one entry was written.
* `get?_ofEntries`: what a table answers that was written from a list.
* `Tells.get?_put`, `Tells.get?_ofEntries`: the same for keys of one sort, where the comparison of
  keys is an equivalence on these only.
* `nodup_keys_ofEntries`: a table that is written has distinct keys.
* `mem_put`: the entries of a table after one was written.
* `get?_eq_some_iff_mem`: reading a table in which no key has two values.
-/

namespace EvmLocator.Table

variable {κ ν : Type} [BEq κ]

/-! ## Keys that are told apart -/

/-- Comparing with the key `k` tells keys that are `P` apart: equal keys compare alike with it, and
those that are equal to it are equal to each other. -/
structure Tells (k : κ) (P : κ → Prop) : Prop where
  congr : ∀ {a b : κ}, P a → P b → (a == b) = true → (a == k) = (b == k)
  eq : ∀ {a b : κ}, P a → P b → (a == k) = true → (b == k) = true → (a == b) = true

theorem tells_all [PartialEquivBEq κ] (k : κ) : Tells k fun _ => True where
  congr _ _ hab := BEq.congr_left hab
  eq _ _ hak hbk := BEq.trans hak (BEq.symm hbk)

/-- Writing brings in the written key and no other. -/
theorem mem_keys_put {a j : κ} {v : ν} {t : Table κ ν} (h : a ∈ keys (t.put j v)) :
    a ∈ keys t ∨ a = j := by
  induction t with
  | nil => exact Or.inr (List.mem_singleton.mp h)
  | cons entry t ih =>
      obtain ⟨b, w⟩ := entry
      unfold put at h
      split at h
      · exact Or.inl h
      · rcases List.mem_cons.mp h with h | h
        · exact Or.inl (h ▸ List.mem_cons_self)
        · exact (ih h).imp_left (List.mem_cons_of_mem _)

section

variable {k : κ} {P : κ → Prop}

theorem Tells.get?_put (h : Tells k P) {j : κ} (hj : P j) (v : ν) {t : Table κ ν}
    (ht : ∀ a ∈ keys t, P a) :
    get? k (t.put j v) = if j == k then some v else get? k t := by
  induction t with
  | nil => rfl
  | cons entry t ih =>
      obtain ⟨a, w⟩ := entry
      have ha : P a := ht a List.mem_cons_self
      unfold put
      by_cases haj : a == j
      · rw [if_pos haj, get?_cons, get?_cons, h.congr ha hj haj]
        split <;> rfl
      · rw [if_neg haj, get?_cons, get?_cons, ih fun b hb => ht b (List.mem_cons_of_mem _ hb)]
        by_cases hak : a == k
        · have hjk : ¬ (j == k) := fun hjk => haj (h.eq ha hj hak hjk)
          simp [hak, hjk]
        · simp [hak]

theorem Tells.get?_foldl_put (h : Tells k P) {entries : List (κ × ν)} {t : Table κ ν}
    (hentries : ∀ entry ∈ entries, P entry.1) (ht : ∀ a ∈ keys t, P a) :
    get? k (entries.foldl (fun t entry => t.put entry.1 entry.2) t) =
      ((entries.findRev? fun entry => entry.1 == k).map Prod.snd).or (get? k t) := by
  induction entries generalizing t with
  | nil => rfl
  | cons entry entries ih =>
      have hentry : P entry.1 := hentries entry List.mem_cons_self
      have hput : ∀ a ∈ keys (t.put entry.1 entry.2), P a := fun a ha =>
        (mem_keys_put ha).elim (ht a) fun heq => heq ▸ hentry
      rw [List.foldl_cons, ih (fun e he => hentries e (List.mem_cons_of_mem _ he)) hput,
        List.findRev?, h.get?_put hentry entry.2 ht]
      cases entries.findRev? fun entry => entry.1 == k with
      | some found => rfl
      | none =>
          by_cases hk : entry.1 == k
          · simp [hk]
          · simp [hk]

/-- A table written from a list answers with the last entry of a key. -/
theorem Tells.get?_ofEntries (h : Tells k P) {entries : List (κ × ν)}
    (hentries : ∀ entry ∈ entries, P entry.1) :
    get? k (ofEntries entries) = (entries.findRev? fun entry => entry.1 == k).map Prod.snd := by
  rw [ofEntries, h.get?_foldl_put hentries fun _ ha => absurd ha List.not_mem_nil, get?_nil,
    Option.or_none]

end

section

variable [PartialEquivBEq κ]

theorem get?_put (k j : κ) (v : ν) (t : Table κ ν) :
    get? k (t.put j v) = if j == k then some v else get? k t :=
  (tells_all k).get?_put trivial v fun _ _ => trivial

theorem get?_ofEntries (k : κ) (entries : List (κ × ν)) :
    get? k (ofEntries entries) = (entries.findRev? fun entry => entry.1 == k).map Prod.snd :=
  (tells_all k).get?_ofEntries fun _ _ => trivial

end

/-! ## Entries -/

section

variable {κ ν : Type} [BEq κ] [LawfulBEq κ] {k j : κ} {v w : ν} {t : Table κ ν}

/-- Writing brings in the written entry and no other. -/
theorem mem_put (h : (k, v) ∈ t.put j w) : (k, v) ∈ t ∨ k = j ∧ v = w := by
  induction t with
  | nil =>
      rw [put, List.mem_singleton, Prod.mk.injEq] at h
      exact Or.inr h
  | cons entry t ih =>
      obtain ⟨a, u⟩ := entry
      unfold put at h
      split at h
      · next haj =>
          rcases List.mem_cons.mp h with h | h
          · rw [Prod.mk.injEq, eq_of_beq haj] at h
            exact Or.inr h
          · exact Or.inl (List.mem_cons_of_mem _ h)
      · rcases List.mem_cons.mp h with h | h
        · exact Or.inl (h ▸ List.mem_cons_self)
        · exact (ih h).imp (List.mem_cons_of_mem _) id

/-- A table written from a list has no other entries. -/
theorem mem_of_mem_ofEntries {entries : List (κ × ν)} {entry : κ × ν}
    (h : entry ∈ ofEntries entries) : entry ∈ entries := by
  have hfold : ∀ (entries : List (κ × ν)) (t : Table κ ν),
      entry ∈ entries.foldl (fun t e => t.put e.1 e.2) t → entry ∈ t ∨ entry ∈ entries := by
    intro entries
    induction entries with
    | nil => exact fun t ht => Or.inl ht
    | cons e entries ih =>
        intro t ht
        rcases ih _ ht with hput | hlater
        · rcases mem_put hput with hmem | ⟨hkey, hvalue⟩
          · exact Or.inl hmem
          · exact Or.inr (Prod.ext hkey hvalue ▸ List.mem_cons_self)
        · exact Or.inr (List.mem_cons_of_mem _ hlater)
  exact (hfold entries [] h).resolve_left List.not_mem_nil

/-- Writing keeps the keys of a table distinct. -/
theorem nodup_keys_put (h : (keys t).Nodup) : (keys (t.put k v)).Nodup := by
  induction t with
  | nil => exact List.nodup_singleton k
  | cons entry t ih =>
      obtain ⟨a, w⟩ := entry
      unfold put
      split
      · exact h
      · next hak =>
          obtain ⟨hnew, hrest⟩ := List.nodup_cons.mp h
          refine List.nodup_cons.mpr ⟨fun hmem => ?_, ih hrest⟩
          rcases mem_keys_put hmem with hmem | hkey
          · exact hnew hmem
          · exact hak (beq_iff_eq.mpr hkey)

/-- The keys of a table written from a list are distinct. -/
theorem nodup_keys_ofEntries (entries : List (κ × ν)) : (keys (ofEntries entries)).Nodup := by
  have hfold : ∀ (entries : List (κ × ν)) (t : Table κ ν), (keys t).Nodup →
      (keys (entries.foldl (fun t e => t.put e.1 e.2) t)).Nodup := by
    intro entries
    induction entries with
    | nil => exact fun t ht => ht
    | cons e entries ih => exact fun t ht => ih _ (nodup_keys_put ht)
  exact hfold entries [] List.nodup_nil

theorem mem_of_get? (h : get? k t = some v) : (k, v) ∈ t := by
  induction t with
  | nil => cases h
  | cons entry t ih =>
      obtain ⟨a, u⟩ := entry
      rw [get?_cons] at h
      split at h
      · next hak =>
          rw [← Option.some.inj h, eq_of_beq hak]
          exact List.mem_cons_self
      · exact List.mem_cons_of_mem _ (ih h)

theorem exists_get?_of_mem (h : (k, v) ∈ t) : ∃ u, get? k t = some u := by
  induction t with
  | nil => cases h
  | cons entry t ih =>
      obtain ⟨a, u⟩ := entry
      rw [get?_cons]
      split
      · exact ⟨u, rfl⟩
      · next hak =>
          rcases List.mem_cons.mp h with h | h
          · cases h
            exact absurd BEq.rfl hak
          · exact ih h

/-- Where a key has one value at most, a table answers with its entries. -/
theorem get?_eq_some_iff_mem (hunique : ∀ u, (k, u) ∈ t → (k, v) ∈ t → u = v) :
    get? k t = some v ↔ (k, v) ∈ t := by
  constructor
  · exact mem_of_get?
  · intro h
    obtain ⟨u, hu⟩ := exists_get?_of_mem h
    rw [hu, hunique u (mem_of_get? hu) h]

/-- A table with distinct keys answers with its entries. -/
theorem get?_eq_some_iff_of_nodup (h : (keys t).Nodup) : get? k t = some v ↔ (k, v) ∈ t :=
  get?_eq_some_iff_mem fun _ hu hv =>
    congrArg Prod.snd (List.inj_on_of_nodup_map h hu hv rfl)

omit [LawfulBEq κ] in
theorem mem_of_mem_erase (h : (k, v) ∈ t.erase j) : (k, v) ∈ t :=
  (List.mem_filter.mp h).1

end

end EvmLocator.Table
