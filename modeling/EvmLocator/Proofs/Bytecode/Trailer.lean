import EvmLocator.Bytecode.Metadata
import EvmLocator.Bytecode.Normal

/-!
# Stripping takes away one trailer

A trailer is looked for kind by kind, and the first kind that fits decides.  The order is of no
consequence: each kind closes with four characters of its own, so a text ends in a trailer of at
most one kind, and the length of that kind fixes where the trailer begins.

What the rest of the library needs is the outcome in terms of the text alone.  Either the text is
something and one trailer, perhaps with a line end behind it, and the trailer goes; or the text
stays.

## Main results

* `stripMetadata_append`, `stripMetadata_append_newline`: a trailer at the end goes, whatever
  stands before it.
* `stripMetadata_cases`: there is no third case.
* `mark_prefix_stripMetadata`: the mark at the start of a code is never taken away.
-/

namespace EvmLocator.Bytecode

/-- Whether a text is a metadata trailer of some kind. -/
def IsTrailer (s : List Char) : Prop :=
  ∃ kind : Trailer, kind.describes s = true

namespace Trailer

/-! ## The pieces of a trailer -/

theorem length_of_accepts {p : Piece} {s : List Char} (h : p.accepts s = true) :
    s.length = p.length := by
  cases p with
  | exact text =>
      have hs : s = text := by simpa [Piece.accepts] using h
      rw [hs, Piece.length]
  | hex count =>
      simp only [Piece.accepts, Bool.and_eq_true, beq_iff_eq] at h
      exact h.1

/-- A text that fits pieces is as long as they are together. -/
theorem length_of_fits {ps : List Piece} {s : List Char} (h : fits ps s = true) :
    s.length = ps.foldr (fun p n => p.length + n) 0 := by
  induction ps generalizing s with
  | nil => simpa [fits] using h
  | cons p ps ih =>
      simp only [fits, Bool.and_eq_true] at h
      obtain ⟨hp, hrest⟩ := h
      have htake := length_of_accepts hp
      have hdrop := ih hrest
      rw [List.length_take] at htake
      rw [List.length_drop] at hdrop
      rw [List.foldr_cons]
      omega

/-- A text that fits pieces of which the last is fixed ends in that piece. -/
theorem ending_of_fits {ps : List Piece} {text s : List Char}
    (h : fits (ps ++ [.exact text]) s = true) : ∃ r, s = r ++ text := by
  induction ps generalizing s with
  | nil =>
      simp only [List.nil_append, fits, Piece.accepts, Piece.length, Bool.and_eq_true, beq_iff_eq,
        List.isEmpty_iff] at h
      refine ⟨[], ?_⟩
      calc s = s.take text.length ++ s.drop text.length := (List.take_append_drop _ _).symm
        _ = [] ++ text := by rw [h.1, h.2, List.append_nil, List.nil_append]
  | cons p ps ih =>
      simp only [List.cons_append, fits, Bool.and_eq_true] at h
      obtain ⟨r, hr⟩ := ih h.2
      refine ⟨s.take p.length ++ r, ?_⟩
      rw [List.append_assoc, ← hr, List.take_append_drop]

/-- A text that fits pieces of which the first is fixed begins with that piece. -/
theorem beginning_of_fits {ps : List Piece} {text s : List Char}
    (h : fits (.exact text :: ps) s = true) : text <+: s := by
  simp only [fits, Piece.accepts, Piece.length, Bool.and_eq_true, beq_iff_eq] at h
  rw [← h.1]
  exact List.take_prefix _ _

/-- Whether every character that the piece accepts is a hexadecimal digit. -/
def allHex : Piece → Bool
  | .exact text => text.all Piece.isHex
  | .hex _ => true

theorem isHex_of_fits {ps : List Piece} {s : List Char} (hps : ps.all allHex = true)
    (h : fits ps s = true) : ∀ c ∈ s, Piece.isHex c = true := by
  induction ps generalizing s with
  | nil =>
      rw [fits, List.isEmpty_iff] at h
      simp [h]
  | cons p ps ih =>
      simp only [List.all_cons, fits, Bool.and_eq_true] at hps h
      have htake : ∀ c ∈ s.take p.length, Piece.isHex c = true := by
        cases p with
        | exact text =>
            have heq : s.take text.length = text := by
              simpa [Piece.accepts, Piece.length] using h.1
            rw [Piece.length, heq]
            simpa [allHex] using hps.1
        | hex count =>
            have hall := h.1
            simp only [Piece.accepts, Bool.and_eq_true, List.all_eq_true] at hall
            exact hall.2
      intro c hc
      rw [← List.take_append_drop p.length s, List.mem_append] at hc
      rcases hc with hc | hc
      · exact htake c hc
      · exact ih hps.2 h.2 c hc

/-! ## The kinds -/

/-- The characters that close every trailer of the kind. -/
def ending : Trailer → List Char
  | swarm0 => "0029".toList
  | swarm1 => "0032".toList
  | ipfs => "0033".toList

theorem ending_injective {k l : Trailer} (h : k.ending = l.ending) : k = l := by
  cases k <;> cases l <;> simp_all [ending]

theorem length_ending (kind : Trailer) : kind.ending.length = 4 := by
  cases kind <;> rfl

theorem length_of_describes {kind : Trailer} {t : List Char} (h : kind.describes t = true) :
    t.length = kind.length :=
  length_of_fits h

theorem ending_of_describes {kind : Trailer} {t : List Char} (h : kind.describes t = true) :
    ∃ r, t = r ++ kind.ending := by
  have hpieces : kind.pieces = kind.pieces.dropLast ++ [.exact kind.ending] := by
    cases kind <;> rfl
  rw [describes, hpieces] at h
  exact ending_of_fits h

theorem isHex_of_describes {kind : Trailer} {t : List Char} (h : kind.describes t = true) :
    ∀ c ∈ t, Piece.isHex c = true :=
  isHex_of_fits (by cases kind <;> decide) h

/-- Trailers that end the same text are of one kind, and what stands before them is the same. -/
theorem eq_of_append_eq {k l : Trailer} {p q t u : List Char} (ht : k.describes t = true)
    (hu : l.describes u = true) (h : p ++ t = q ++ u) : k = l ∧ p = q ∧ t = u := by
  obtain ⟨r, hr⟩ := ending_of_describes ht
  obtain ⟨r', hr'⟩ := ending_of_describes hu
  have hend : (p ++ r) ++ k.ending = (q ++ r') ++ l.ending := by
    rw [List.append_assoc, ← hr, List.append_assoc, ← hr', h]
  have hkl : k = l :=
    ending_injective (List.append_inj' hend (by rw [length_ending, length_ending])).2
  subst hkl
  have hlen : t.length = u.length := by
    rw [length_of_describes ht, length_of_describes hu]
  obtain ⟨hpq, htu⟩ := List.append_inj' h hlen
  exact ⟨rfl, hpq, htu⟩

/-! ## Stripping one kind -/

theorem before?_eq_some_iff {kind : Trailer} {s p : List Char} :
    kind.before? s = some p ↔ ∃ t, kind.describes t = true ∧ s = p ++ t := by
  simp only [before?]
  constructor
  · intro h
    split at h
    · next hd =>
        cases h
        exact ⟨_, hd, (List.take_append_drop _ _).symm⟩
    · cases h
  · rintro ⟨t, ht, rfl⟩
    have hcut : (p ++ t).length - kind.length = p.length := by
      rw [List.length_append, length_of_describes ht]
      omega
    rw [hcut, List.drop_left, List.take_left, if_pos ht]

/-- A text does not end both in a trailer and in a line end. -/
theorem append_ne_append_newline {kind : Trailer} {p q t : List Char}
    (ht : kind.describes t = true) : p ++ t ≠ q ++ ['\n'] := by
  intro h
  rcases List.eq_nil_or_concat t with rfl | ⟨r, c, rfl⟩
  · have hlen := length_of_describes ht
    cases kind <;> exact absurd hlen (by decide)
  · have hc := isHex_of_describes ht c (by simp)
    rw [List.concat_eq_append, ← List.append_assoc] at h
    obtain rfl : c = '\n' := by simpa using (List.append_inj' h rfl).2
    exact absurd hc (by decide)

theorem strip?_eq_some_iff {kind : Trailer} {s r : List Char} :
    kind.strip? s = some r ↔
      (∃ t, kind.describes t = true ∧ s = r ++ t) ∨
        ∃ p t, kind.describes t = true ∧ s = p ++ t ++ ['\n'] ∧ r = p ++ ['\n'] := by
  unfold strip?
  constructor
  · intro h
    split at h
    · next hb =>
        cases h
        exact Or.inl (before?_eq_some_iff.mp hb)
    · split at h
      · next hlast =>
          obtain ⟨line, rfl⟩ := List.getLast?_eq_some_iff.mp hlast
          obtain ⟨p, hp, rfl⟩ := Option.map_eq_some_iff.mp h
          rw [List.dropLast_concat] at hp
          obtain ⟨t, ht, rfl⟩ := before?_eq_some_iff.mp hp
          exact Or.inr ⟨p, t, ht, rfl, rfl⟩
      · cases h
  · rintro (⟨t, ht, rfl⟩ | ⟨p, t, ht, rfl, rfl⟩)
    · rw [before?_eq_some_iff.mpr ⟨t, ht, rfl⟩]
    · have hnone : kind.before? (p ++ t ++ ['\n']) = none := by
        rw [Option.eq_none_iff_forall_not_mem]
        intro q hq
        obtain ⟨u, hu, heq⟩ := before?_eq_some_iff.mp hq
        exact append_ne_append_newline hu heq.symm
      have hsome : kind.before? (p ++ t) = some p := before?_eq_some_iff.mpr ⟨t, ht, rfl⟩
      rw [hnone, List.getLast?_concat, List.dropLast_concat, hsome]
      rfl

/-- The kinds that strip a text all strip it alike. -/
theorem strip?_unique {k l : Trailer} {s q r : List Char} (hk : k.strip? s = some q)
    (hl : l.strip? s = some r) : k = l ∧ q = r := by
  rcases strip?_eq_some_iff.mp hk with ⟨t, ht, rfl⟩ | ⟨p, t, ht, rfl, rfl⟩
  · rcases strip?_eq_some_iff.mp hl with ⟨u, hu, h⟩ | ⟨p', u, hu, h, rfl⟩
    · obtain ⟨hkl, hqr, -⟩ := eq_of_append_eq ht hu h
      exact ⟨hkl, hqr⟩
    · exact absurd h (append_ne_append_newline ht)
  · rcases strip?_eq_some_iff.mp hl with ⟨u, hu, h⟩ | ⟨p', u, hu, h, rfl⟩
    · exact absurd h.symm (append_ne_append_newline hu)
    · obtain ⟨hkl, hpp, -⟩ := eq_of_append_eq ht hu (List.append_cancel_right h)
      exact ⟨hkl, by rw [hpp]⟩

end Trailer

/-! ## Stripping any kind -/

theorem length_of_isTrailer {t : List Char} (h : IsTrailer t) : 86 ≤ t.length ∧ t.length ≤ 106 := by
  obtain ⟨kind, hkind⟩ := h
  rw [Trailer.length_of_describes hkind]
  cases kind <;> decide

theorem isHex_of_isTrailer {t : List Char} (h : IsTrailer t) :
    ∀ c ∈ t, Piece.isHex c = true :=
  h.elim fun _ hkind => Trailer.isHex_of_describes hkind

/-- Every trailer begins with the same digit. -/
theorem head?_of_isTrailer {t : List Char} (h : IsTrailer t) : t.head? = some 'a' := by
  obtain ⟨kind, hkind⟩ := h
  cases kind <;>
    · obtain ⟨rest, rfl⟩ := Trailer.beginning_of_fits hkind
      rfl

/-- Where one kind strips a text, the order in which the kinds are tried is of no consequence. -/
theorem stripMetadata_of_strip? {kind : Trailer} {s r : List Char} (h : kind.strip? s = some r) :
    stripMetadata s = r := by
  unfold stripMetadata
  cases hfound : Trailer.all.findSome? fun kind => kind.strip? s with
  | none =>
      rw [List.findSome?_eq_none_iff] at hfound
      have hmem : kind ∈ Trailer.all := by cases kind <;> decide
      rw [hfound kind hmem] at h
      cases h
  | some q =>
      obtain ⟨l, -, hl⟩ := List.exists_of_findSome?_eq_some hfound
      exact (Trailer.strip?_unique hl h).2

theorem stripMetadata_append {t : List Char} (ht : IsTrailer t) (p : List Char) :
    stripMetadata (p ++ t) = p := by
  obtain ⟨kind, hkind⟩ := ht
  exact stripMetadata_of_strip? (Trailer.strip?_eq_some_iff.mpr (Or.inl ⟨t, hkind, rfl⟩))

theorem stripMetadata_append_newline {t : List Char} (ht : IsTrailer t) (p : List Char) :
    stripMetadata (p ++ t ++ ['\n']) = p ++ ['\n'] := by
  obtain ⟨kind, hkind⟩ := ht
  exact stripMetadata_of_strip?
    (Trailer.strip?_eq_some_iff.mpr (Or.inr ⟨p, t, hkind, rfl, rfl⟩))

/-- A text ends in a trailer, which goes, or in a trailer and a line end, which stays, or it is
left alone. -/
theorem stripMetadata_cases (s : List Char) :
    (∃ t, IsTrailer t ∧ s = stripMetadata s ++ t) ∨
      (∃ p t, IsTrailer t ∧ s = p ++ t ++ ['\n'] ∧ stripMetadata s = p ++ ['\n']) ∨
        stripMetadata s = s := by
  cases hfound : Trailer.all.findSome? fun kind => kind.strip? s with
  | none => exact Or.inr (Or.inr (by rw [stripMetadata, hfound]; rfl))
  | some r =>
      obtain ⟨kind, -, hkind⟩ := List.exists_of_findSome?_eq_some hfound
      rw [stripMetadata_of_strip? hkind]
      rcases Trailer.strip?_eq_some_iff.mp hkind with ⟨t, ht, hs⟩ | ⟨p, t, ht, hs, hr⟩
      · exact Or.inl ⟨t, ⟨kind, ht⟩, hs⟩
      · exact Or.inr (Or.inl ⟨p, t, ⟨kind, ht⟩, hs, hr⟩)

/-- In a text without line ends a trailer goes or nothing does. -/
theorem stripMetadata_cases_of_notMem {s : List Char} (hs : '\n' ∉ s) :
    (∃ t, IsTrailer t ∧ s = stripMetadata s ++ t) ∨ stripMetadata s = s := by
  rcases stripMetadata_cases s with h | ⟨p, t, -, rfl, -⟩ | h
  · exact Or.inl h
  · exact absurd (by simp) hs
  · exact Or.inr h

/-- The `x` of the mark is no digit, so a trailer stands behind the mark. -/
theorem mark_prefix_of_append {p t u : List Char} (ht : IsTrailer t)
    (h : mark <+: p ++ (t ++ u)) : mark <+: p := by
  have hhex := isHex_of_isTrailer ht
  have hlen := (length_of_isTrailer ht).1
  match p, t, h with
  | _ :: _ :: _, _, h =>
      rw [mark, List.cons_append, List.cons_append, List.cons_prefix_cons,
        List.cons_prefix_cons] at h
      obtain ⟨rfl, rfl, -⟩ := h
      exact ⟨_, rfl⟩
  | [_], x :: _, h =>
      simp only [mark, List.nil_append, List.cons_append, List.cons_prefix_cons] at h
      exact absurd (hhex x (by simp)) (by rw [← h.2.1]; decide)
  | [], _ :: x :: _, h =>
      simp only [mark, List.nil_append, List.cons_append, List.cons_prefix_cons] at h
      exact absurd (hhex x (by simp)) (by rw [← h.2.1]; decide)
  | _, [], _ => simp at hlen
  | _, [_], _ => simp at hlen

theorem mark_prefix_stripMetadata {s : List Char} (h : mark <+: s) :
    mark <+: stripMetadata s := by
  rcases stripMetadata_cases s with ⟨t, ht, hs⟩ | ⟨p, t, ht, hs, hr⟩ | hs
  · rw [hs] at h
    exact mark_prefix_of_append (u := []) ht (by rwa [List.append_nil])
  · rw [hs, List.append_assoc] at h
    rw [hr]
    exact (mark_prefix_of_append ht h).trans (List.prefix_append _ _)
  · rwa [hs]

end EvmLocator.Bytecode
