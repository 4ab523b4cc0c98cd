/-!
# Fields and occurrences

Splitting a text at a separator keeps every field, the empty ones included, so a text always has
at least one field and joining the fields gives the text back.  `occurs` is the test for a
contiguous piece of text.

## Main results

* `join_split`: joining the fields of a text gives the text back.
* `split_join`: splitting joined fields gives the fields back, if the separator is in none of them.
* `occurs_iff`: a piece occurs exactly when the text is something, the piece, something.
-/

namespace EvmLocator.Text

/-- The fields of a text between the separators `sep`, empty fields included. -/
def split (sep : Char) : List Char → List (List Char)
  | [] => [[]]
  | c :: rest =>
    if c = sep then [] :: split sep rest
    else match split sep rest with
      | [] => [[c]]
      | field :: fields => (c :: field) :: fields

/-- Writes the fields one after another with `sep` between them. -/
def join (sep : Char) : List (List Char) → List Char
  | [] => []
  | [field] => field
  | field :: fields => field ++ sep :: join sep fields

/-- Whether `piece` stands somewhere in the text. -/
def occurs (piece : List Char) : List Char → Bool
  | [] => piece.isEmpty
  | c :: rest => piece.isPrefixOf (c :: rest) || occurs piece rest

theorem split_ne_nil (sep : Char) (s : List Char) : split sep s ≠ [] := by
  cases s with
  | nil => simp [split]
  | cons c rest =>
      simp only [split]
      split
      · simp
      · split <;> simp

theorem join_split (sep : Char) (s : List Char) : join sep (split sep s) = s := by
  induction s with
  | nil => rfl
  | cons c rest ih =>
      have hne := split_ne_nil sep rest
      simp only [split]
      split
      · next h =>
          subst h
          cases hs : split c rest with
          | nil => exact absurd hs hne
          | cons f fs => rw [hs] at ih; simp [join, ih]
      · cases hs : split sep rest with
        | nil => exact absurd hs hne
        | cons f fs =>
            rw [hs] at ih
            cases fs with
            | nil => simpa [join] using ih
            | cons g gs => simpa [join] using ih

theorem split_of_notMem {sep : Char} {field : List Char} (h : sep ∉ field) :
    split sep field = [field] := by
  induction field with
  | nil => rfl
  | cons c rest ih =>
      rw [List.mem_cons, not_or] at h
      rw [split, if_neg (Ne.symm h.1), ih h.2]

theorem split_append {sep : Char} {field : List Char} (h : sep ∉ field) (rest : List Char) :
    split sep (field ++ sep :: rest) = field :: split sep rest := by
  induction field with
  | nil => rw [List.nil_append, split, if_pos rfl]
  | cons c field ih =>
      rw [List.mem_cons, not_or] at h
      rw [List.cons_append, split, if_neg (Ne.symm h.1), ih h.2]

/-- Splitting joined fields gives the fields back, if the separator is in none of them. -/
theorem split_join {sep : Char} {fields : List (List Char)} (hne : fields ≠ [])
    (h : ∀ field ∈ fields, sep ∉ field) : split sep (join sep fields) = fields := by
  induction fields with
  | nil => exact absurd rfl hne
  | cons field fields ih =>
      have hfield := h field List.mem_cons_self
      cases fields with
      | nil => exact split_of_notMem hfield
      | cons next fields =>
          have hrest : ∀ f ∈ next :: fields, sep ∉ f :=
            fun f hf => h f (List.mem_cons_of_mem _ hf)
          rw [join, split_append hfield, ih (List.cons_ne_nil next fields) hrest]
          exact List.cons_ne_nil next fields

/-- What is in no field and is not the separator is not in the joined fields. -/
theorem notMem_join {sep c : Char} (hc : c ≠ sep) {fields : List (List Char)}
    (h : ∀ field ∈ fields, c ∉ field) : c ∉ join sep fields := by
  induction fields with
  | nil => exact List.not_mem_nil
  | cons field fields ih =>
      have hfield := h field List.mem_cons_self
      cases fields with
      | nil => exact hfield
      | cons next fields =>
          have hrest : c ∉ join sep (next :: fields) :=
            ih fun f hf => h f (List.mem_cons_of_mem _ hf)
          rw [join, List.mem_append, List.mem_cons]
          · rintro (hmem | hmem | hmem)
            · exact hfield hmem
            · exact hc hmem
            · exact hrest hmem
          · exact List.cons_ne_nil next fields

theorem occurs_iff (piece s : List Char) :
    occurs piece s = true ↔ ∃ before after, s = before ++ (piece ++ after) := by
  induction s with
  | nil =>
      constructor
      · intro h
        exact ⟨[], [], by simpa [occurs] using h⟩
      · rintro ⟨before, after, h⟩
        simp at h
        simp [occurs, h]
  | cons c rest ih =>
      simp only [occurs, Bool.or_eq_true, List.isPrefixOf_iff_prefix, ih]
      constructor
      · rintro (⟨after, h⟩ | ⟨before, after, h⟩)
        · exact ⟨[], after, by simpa using h.symm⟩
        · exact ⟨c :: before, after, by simp [h]⟩
      · rintro ⟨before, after, h⟩
        cases before with
        | nil => exact Or.inl ⟨after, by simpa using h.symm⟩
        | cons b bs =>
            simp only [List.cons_append, List.cons.injEq] at h
            exact Or.inr ⟨bs, after, h.2⟩

end EvmLocator.Text
