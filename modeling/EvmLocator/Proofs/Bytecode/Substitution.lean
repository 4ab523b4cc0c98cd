import EvmLocator.Proofs.Bytecode.Normal
import EvmLocator.Proofs.Bytecode.Trailer

/-!
# Taking every trailer out

A kind of trailer is a pattern, and the rule for metadata is a substitution: for one kind after
another every occurrence of the pattern is taken out of the text, and the first kind for which this
changes the text decides.  An occurrence closes the text, or stands before a line end that does.

`takeOut` is that substitution for one kind, and `takeOutFirst` for kinds in a given order.  They
look for a trailer at every place of a text and for every kind, where `stripMetadata` looks at one
place for each kind and stops at the first that fits.  Both come to the same text **because a text
holds one occurrence of one kind at most**: the last characters tell the kind, and the length of the
kind tells the place.

## Main results

* `Trailer.occursAt_unique`: two occurrences in a text are of one kind and at one place.
* `Trailer.takeOut_append`: an occurrence goes, and the text on both sides of it stays.
* `Trailer.takeOutFirst_eq`: in whatever order the kinds are tried, the outcome is `stripMetadata`.
* `stripMetadata_exact`: what becomes of every text.
-/

namespace EvmLocator.Bytecode

namespace Trailer

/-- What may stand behind an occurrence of a trailer. -/
def IsClose (rest : List Char) : Prop :=
  rest = [] ∨ rest = ['\n']

instance (rest : List Char) : Decidable (IsClose rest) := by
  unfold IsClose
  infer_instance

/-- What stands behind the occurrence of a kind with which a text begins. -/
def behind? (kind : Trailer) (s : List Char) : Option (List Char) :=
  if kind.describes (s.take kind.length) = true ∧ IsClose (s.drop kind.length) then
    some (s.drop kind.length)
  else none

/-- Whether a kind has an occurrence at the place `i` of a text. -/
def OccursAt (kind : Trailer) (s : List Char) (i : Nat) : Prop :=
  (kind.behind? (s.drop i)).isSome = true

theorem length_pos (kind : Trailer) : 0 < kind.length := by
  cases kind <;> decide

/-- A text without the occurrences of a kind.  They are looked for from left to right, each behind
the one before it. -/
def takeOut (kind : Trailer) : List Char → List Char
  | [] => []
  | c :: s =>
    match _h : kind.behind? (c :: s) with
    | some rest => takeOut kind rest
    | none => c :: takeOut kind s
termination_by s => s.length
decreasing_by
  · have hpos := kind.length_pos
    simp only [behind?] at _h
    split at _h
    · cases _h
      simp only [List.length_drop, List.length_cons]
      omega
    · cases _h
  · simp

/-- A text after the first of the given kinds that changes it. -/
def takeOutFirst : List Trailer → List Char → List Char
  | [], s => s
  | kind :: kinds, s => if kind.takeOut s = s then takeOutFirst kinds s else kind.takeOut s

/-! ## Occurrences -/

theorem behind?_eq_some_iff {kind : Trailer} {s rest : List Char} :
    kind.behind? s = some rest ↔
      IsClose rest ∧ ∃ t, kind.describes t = true ∧ s = t ++ rest := by
  simp only [behind?]
  constructor
  · intro h
    split at h
    · next hboth =>
        cases h
        exact ⟨hboth.2, _, hboth.1, (List.take_append_drop _ _).symm⟩
    · cases h
  · rintro ⟨hclose, t, ht, rfl⟩
    have hlen := length_of_describes ht
    rw [List.take_left' hlen, List.drop_left' hlen, if_pos ⟨ht, hclose⟩]

theorem occursAt_iff {kind : Trailer} {s : List Char} {i : Nat} :
    kind.OccursAt s i ↔
      ∃ p t rest, kind.describes t = true ∧ IsClose rest ∧ s = p ++ t ++ rest ∧ p.length = i := by
  rw [OccursAt, Option.isSome_iff_exists]
  simp only [behind?_eq_some_iff]
  constructor
  · rintro ⟨rest, hclose, t, ht, hs⟩
    refine ⟨s.take i, t, rest, ht, hclose, ?_, ?_⟩
    · rw [List.append_assoc, ← hs, List.take_append_drop]
    · have hlen := congrArg List.length hs
      have htlen := length_of_describes ht
      have hpos := kind.length_pos
      rw [List.length_drop, List.length_append] at hlen
      rw [List.length_take]
      omega
  · rintro ⟨p, t, rest, ht, hclose, rfl, rfl⟩
    exact ⟨rest, hclose, t, ht, by rw [List.append_assoc, List.drop_left]⟩

/-- Texts that close with a trailer and are equal are equal piece by piece. -/
theorem eq_of_append_close_eq {k l : Trailer} {p q t u v w : List Char}
    (ht : k.describes t = true) (hu : l.describes u = true) (hv : IsClose v) (hw : IsClose w)
    (h : p ++ t ++ v = q ++ u ++ w) : k = l ∧ p = q := by
  rcases hv with rfl | rfl
  · rcases hw with rfl | rfl
    · rw [List.append_nil, List.append_nil] at h
      exact ⟨(eq_of_append_eq ht hu h).1, (eq_of_append_eq ht hu h).2.1⟩
    · rw [List.append_nil] at h
      exact absurd h (append_ne_append_newline ht)
  · rcases hw with rfl | rfl
    · rw [List.append_nil] at h
      exact absurd h.symm (append_ne_append_newline hu)
    · have hcancel := List.append_cancel_right h
      exact ⟨(eq_of_append_eq ht hu hcancel).1, (eq_of_append_eq ht hu hcancel).2.1⟩

/-- Two occurrences in a text are of one kind and at one place. -/
theorem occursAt_unique {k l : Trailer} {s : List Char} {i j : Nat} (hk : k.OccursAt s i)
    (hl : l.OccursAt s j) : k = l ∧ i = j := by
  obtain ⟨p, t, v, ht, hv, rfl, rfl⟩ := occursAt_iff.mp hk
  obtain ⟨q, u, w, hu, hw, heq, rfl⟩ := occursAt_iff.mp hl
  obtain ⟨hkind, hpq⟩ := eq_of_append_close_eq ht hu hv hw heq
  exact ⟨hkind, by rw [hpq]⟩

/-- Stripping a kind strips an occurrence. -/
theorem strip?_eq_some_iff_close {kind : Trailer} {s r : List Char} :
    kind.strip? s = some r ↔
      ∃ p t rest, kind.describes t = true ∧ IsClose rest ∧ s = p ++ t ++ rest ∧ r = p ++ rest := by
  rw [strip?_eq_some_iff]
  constructor
  · rintro (⟨t, ht, rfl⟩ | ⟨p, t, ht, rfl, rfl⟩)
    · exact ⟨r, t, [], ht, Or.inl rfl, by rw [List.append_nil], by rw [List.append_nil]⟩
    · exact ⟨p, t, ['\n'], ht, Or.inr rfl, rfl, rfl⟩
  · rintro ⟨p, t, rest, ht, rfl | rfl, rfl, rfl⟩
    · exact Or.inl ⟨t, ht, by rw [List.append_nil, List.append_nil]⟩
    · exact Or.inr ⟨p, t, ht, rfl, rfl⟩

/-! ## Taking out one kind -/

theorem takeOut_cons_of_some {kind : Trailer} {c : Char} {s rest : List Char}
    (h : kind.behind? (c :: s) = some rest) : kind.takeOut (c :: s) = kind.takeOut rest := by
  rw [takeOut]
  split <;> simp_all

theorem takeOut_cons_of_none {kind : Trailer} {c : Char} {s : List Char}
    (h : kind.behind? (c :: s) = none) : kind.takeOut (c :: s) = c :: kind.takeOut s := by
  rw [takeOut]
  split <;> simp_all

/-- A text without occurrences stays. -/
theorem takeOut_of_not_occursAt {kind : Trailer} {s : List Char}
    (h : ∀ i, ¬ kind.OccursAt s i) : kind.takeOut s = s := by
  induction s with
  | nil => rw [takeOut]
  | cons c s ih =>
      have hnone : kind.behind? (c :: s) = none := Option.not_isSome_iff_eq_none.mp (h 0)
      rw [takeOut_cons_of_none hnone, ih fun i => h (i + 1)]

/-- There is no room for a trailer in what may stand behind one. -/
theorem not_occursAt_of_isClose {kind : Trailer} {rest : List Char} (h : IsClose rest) (i : Nat) :
    ¬ kind.OccursAt rest i := by
  intro hoccurs
  obtain ⟨p, t, v, ht, -, heq, -⟩ := occursAt_iff.mp hoccurs
  have htrailer := (length_of_isTrailer ⟨kind, ht⟩).1
  have hlen := congrArg List.length heq
  rw [List.length_append, List.length_append] at hlen
  have hshort : rest.length ≤ 1 := by
    rcases h with rfl | rfl <;> simp
  omega

/-- An occurrence goes, and the text on both sides of it stays. -/
theorem takeOut_append {kind : Trailer} {t rest : List Char} (ht : kind.describes t = true)
    (hrest : IsClose rest) (p : List Char) : kind.takeOut (p ++ t ++ rest) = p ++ rest := by
  induction p with
  | nil =>
      have hbehind : kind.behind? (t ++ rest) = some rest :=
        behind?_eq_some_iff.mpr ⟨hrest, t, ht, rfl⟩
      cases t with
      | nil => exact absurd (length_of_describes ht) (Nat.ne_of_lt kind.length_pos)
      | cons c t =>
          rw [List.cons_append] at hbehind
          rw [List.nil_append, List.cons_append, List.nil_append, takeOut_cons_of_some hbehind]
          exact takeOut_of_not_occursAt (not_occursAt_of_isClose hrest)
  | cons c p ih =>
      -- An occurrence at the first place would be a second one.
      have hnone : kind.behind? (c :: (p ++ t ++ rest)) = none := by
        rw [← Option.not_isSome_iff_eq_none]
        intro hsome
        have hhere : kind.OccursAt (c :: p ++ t ++ rest) (c :: p).length :=
          occursAt_iff.mpr ⟨c :: p, t, rest, ht, hrest, rfl, rfl⟩
        have hfirst : kind.OccursAt (c :: p ++ t ++ rest) 0 := hsome
        exact absurd (occursAt_unique hfirst hhere).2 (by simp)
      rw [List.cons_append, List.cons_append, takeOut_cons_of_none hnone, ih, List.cons_append]

theorem takeOut_of_strip? {kind : Trailer} {s r : List Char} (h : kind.strip? s = some r) :
    kind.takeOut s = r := by
  obtain ⟨p, t, rest, ht, hrest, rfl, rfl⟩ := strip?_eq_some_iff_close.mp h
  exact takeOut_append ht hrest p

theorem takeOut_of_strip?_eq_none {kind : Trailer} {s : List Char} (h : kind.strip? s = none) :
    kind.takeOut s = s := by
  apply takeOut_of_not_occursAt
  intro i hoccurs
  obtain ⟨p, t, rest, ht, hrest, hs, -⟩ := occursAt_iff.mp hoccurs
  have hsome : kind.strip? s = some (p ++ rest) :=
    strip?_eq_some_iff_close.mpr ⟨p, t, rest, ht, hrest, hs, rfl⟩
  rw [h] at hsome
  cases hsome

/-! ## Taking out the first kind that is there -/

/-- A kind that changes a text changes it into what stripping leaves. -/
theorem takeOut_eq_or (kind : Trailer) (s : List Char) :
    kind.takeOut s = s ∨ kind.takeOut s = stripMetadata s := by
  cases h : kind.strip? s with
  | none => exact Or.inl (takeOut_of_strip?_eq_none h)
  | some r => exact Or.inr (by rw [takeOut_of_strip? h, stripMetadata_of_strip? h])

/-- If no kind changes a text, stripping does not. -/
theorem stripMetadata_of_takeOut {s : List Char} (h : ∀ kind : Trailer, kind.takeOut s = s) :
    stripMetadata s = s := by
  cases hfound : all.findSome? fun kind => kind.strip? s with
  | none => rw [stripMetadata, hfound, Option.getD_none]
  | some r =>
      obtain ⟨kind, -, hkind⟩ := List.exists_of_findSome?_eq_some hfound
      rw [stripMetadata_of_strip? hkind, ← takeOut_of_strip? hkind, h kind]

theorem takeOutFirst_of_forall {kinds : List Trailer} {s : List Char}
    (h : ∀ kind ∈ kinds, kind.takeOut s = s) : takeOutFirst kinds s = s := by
  induction kinds with
  | nil => rfl
  | cons kind kinds ih =>
      rw [takeOutFirst, if_pos (h kind List.mem_cons_self)]
      exact ih fun l hl => h l (List.mem_cons_of_mem _ hl)

theorem takeOutFirst_of_mem {kinds : List Trailer} {kind : Trailer} {s : List Char}
    (hmem : kind ∈ kinds) (h : kind.takeOut s ≠ s) : takeOutFirst kinds s = stripMetadata s := by
  -- The kind that decides need not be `kind`, but whichever does leaves the same text.
  induction kinds with
  | nil => cases hmem
  | cons l kinds ih =>
      rw [takeOutFirst]
      split
      · next hsame =>
          rcases List.mem_cons.mp hmem with rfl | hmem
          · exact absurd hsame h
          · exact ih hmem
      · next hchanged => exact (l.takeOut_eq_or s).resolve_left hchanged

/-- In whatever order the kinds are tried, the outcome is the same. -/
theorem takeOutFirst_eq {kinds : List Trailer} (hall : ∀ kind, kind ∈ kinds) (s : List Char) :
    takeOutFirst kinds s = stripMetadata s := by
  by_cases hsame : ∀ kind : Trailer, kind.takeOut s = s
  · rw [takeOutFirst_of_forall fun kind _ => hsame kind, stripMetadata_of_takeOut hsame]
  · obtain ⟨kind, hkind⟩ := Classical.not_forall.mp hsame
    exact takeOutFirst_of_mem (hall kind) hkind

end Trailer

/-- **Stripping takes away exactly one trailer.**  A text holds one occurrence of one kind at most,
so the order of the kinds is of no consequence; the trailer goes whatever stands before it, a line
end behind it stays, and a text without an occurrence stays as it is.  The mark of a code in normal
form is not touched. -/
theorem stripMetadata_exact (s : List Char) :
    (∀ (k l : Trailer) (i j : Nat), k.OccursAt s i → l.OccursAt s j → k = l ∧ i = j) ∧
      (∀ kinds, (∀ kind, kind ∈ kinds) → Trailer.takeOutFirst kinds s = stripMetadata s) ∧
      (∀ p t, IsTrailer t → s = p ++ t → stripMetadata s = p) ∧
      (∀ p t, IsTrailer t → s = p ++ t ++ ['\n'] → stripMetadata s = p ++ ['\n']) ∧
      ((¬ ∃ p t, IsTrailer t ∧ (s = p ++ t ∨ s = p ++ t ++ ['\n'])) → stripMetadata s = s) ∧
      mark <+: stripMetadata (normalize s) := by
  refine ⟨fun k l i j => Trailer.occursAt_unique, fun kinds hall => Trailer.takeOutFirst_eq hall s,
    ?_, ?_, fun hnone => ?_, mark_prefix_stripMetadata (mark_prefix_normalize s)⟩
  · rintro p t ht rfl
    exact stripMetadata_append ht p
  · rintro p t ht rfl
    exact stripMetadata_append_newline ht p
  · rcases stripMetadata_cases s with ⟨t, ht, hs⟩ | ⟨p, t, ht, hs, -⟩ | hs
    · exact absurd ⟨_, t, ht, Or.inl hs⟩ hnone
    · exact absurd ⟨p, t, ht, Or.inr hs⟩ hnone
    · exact hs

end EvmLocator.Bytecode
