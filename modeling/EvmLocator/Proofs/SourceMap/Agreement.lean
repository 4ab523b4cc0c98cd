import EvmLocator.Proofs.Outcome
import EvmLocator.SourceMap.Lookup

/-!
# Two ways to one location

A whole map is read forwards: each entry is read by itself, and what it leaves open is taken from
the location before it.  A single location is read backwards: an entry is read only for what is
still open, and the walk ends as soon as nothing is.

Both put the same fields together.  `Location.orElse` fills what one location leaves open from
another, it is associative, and a complete location takes nothing.  Reading an entry for what is
open is reading it by itself and then filling (`Location.fill_of_own`), provided it can be read by
itself.  So the walk back over readable entries ends in the location that the forward pass has at
that place, and where an entry cannot be read, both ways meet it first at its own place.

## Main results

* `decodeFrom_eq_mapM_settle`: the forward pass is the walks back, one after another.
* `decodeFrom_eq_error_iff`: the forward pass fails at the first entry that cannot be read.
* `atIndex_of_decode`: where a whole map has a location, the walk back from there ends in it.
* `decode_eq_mapM_atIndex`: the locations of a whole map are those of its indices, faults included.
-/

namespace EvmLocator

/-! ## Locations filled from others -/

namespace Location

@[simp] theorem empty_orElse (l : Location) : ({} : Location).orElse l = l := rfl

@[simp] theorem orElse_empty (l : Location) : l.orElse {} = l := by
  simp [orElse]

theorem orElse_assoc (a b c : Location) : (a.orElse b).orElse c = a.orElse (b.orElse c) := by
  simp [orElse, Option.or_assoc]

/-- A complete location takes nothing from another. -/
theorem orElse_of_complete {l : Location} (h : l.complete = true) (other : Location) :
    l.orElse other = l := by
  simp only [complete, Bool.and_eq_true] at h
  obtain ⟨⟨⟨⟨hstart, hlength⟩, hfile⟩, hjump⟩, hdepth⟩ := h
  simp [orElse, Option.or_of_isSome, *]

end Location

namespace SourceMap

open Text

/-! ## Reading one field -/

theorem readNumber_of_own {k : Nat} {field : List Char} {own : Option Int}
    (h : readNumber none k field = .ok own) (known : Option Int) :
    readNumber known k field = .ok (known <|> own) := by
  cases known with
  | some n => rfl
  | none => exact h

theorem readBound_of_own {k : Nat} {field : List Char} {own : Option Int}
    (h : readBound none k field = .ok own) (known : Option Int) :
    readBound known k field = .ok (known <|> own) := by
  unfold readBound at h ⊢
  split
  · next hminus =>
      rw [if_pos hminus, Except.ok.injEq] at h
      rw [← h]
      cases known <;> rfl
  · next hminus =>
      rw [if_neg hminus] at h
      exact readNumber_of_own h known

theorem readJump_eq (known : Option String) (field : List Char) :
    readJump known field = (known <|> readJump none field) := by
  cases known <;> rfl

/-- The number of the entry that an error blames, if it blames one. -/
def Error.entry? : Error → Option Nat
  | notText _ => none
  | outOfRange _ _ => none
  | unfit _ => none
  | tooManyFields entry _ => some entry
  | invalidField entry _ => some entry

theorem entry?_of_readNumber {known : Option Int} {k : Nat} {field : List Char} {e : Error}
    (h : readNumber known k field = .error e) : e.entry? = some k := by
  unfold readNumber at h
  split at h
  · cases h
  · split at h
    · cases h
    · split at h
      · cases h
      · cases h
        rfl

theorem entry?_of_readBound {known : Option Int} {k : Nat} {field : List Char} {e : Error}
    (h : readBound known k field = .error e) : e.entry? = some k := by
  unfold readBound at h
  split at h
  · cases h
  · exact entry?_of_readNumber h

/-! ## Reading one entry -/

/-- What an entry adds to what is known, field by field. -/
theorem fill_eq_ok_iff {known l : Location} {k : Nat} {entry : List Char} :
    known.fill k entry = .ok l ↔
      (split ':' entry).length ≤ fieldCount ∧
        readBound known.start k ((split ':' entry).getD 0 []) = .ok l.start ∧
        readBound known.length k ((split ':' entry).getD 1 []) = .ok l.length ∧
        readNumber known.file k ((split ':' entry).getD 2 []) = .ok l.file ∧
        readJump known.jump ((split ':' entry).getD 3 []) = l.jump ∧
        readNumber known.modifierDepth k ((split ':' entry).getD 4 []) = .ok l.modifierDepth := by
  unfold Location.fill
  by_cases hcount : fieldCount < (split ':' entry).length
  · simp only [hcount, ↓reduceIte, reduceCtorEq, false_iff, not_and]
    omega
  · simp only [hcount, ↓reduceIte, Nat.le_of_not_lt hcount, true_and]
    cases readBound known.start k ((split ':' entry).getD 0 []) with
    | error e => simp [bind, Except.bind]
    | ok start =>
        cases readBound known.length k ((split ':' entry).getD 1 []) with
        | error e => simp [bind, Except.bind]
        | ok length =>
            cases readNumber known.file k ((split ':' entry).getD 2 []) with
            | error e => simp [bind, Except.bind]
            | ok file =>
                cases readNumber known.modifierDepth k ((split ':' entry).getD 4 []) with
                | error e => simp [bind, Except.bind]
                | ok depth =>
                    cases l
                    simp [bind, Except.bind, pure, Except.pure]

/-- An entry that cannot be read is the one that the error blames. -/
theorem entry?_of_fill {known : Location} {k : Nat} {entry : List Char} {e : Error}
    (h : known.fill k entry = .error e) : e.entry? = some k := by
  simp only [Location.fill] at h
  split at h
  · cases h
    rfl
  · rcases error_of_bind h with h | ⟨start, -, h⟩
    · exact entry?_of_readBound h
    rcases error_of_bind h with h | ⟨length, -, h⟩
    · exact entry?_of_readBound h
    rcases error_of_bind h with h | ⟨file, -, h⟩
    · exact entry?_of_readNumber h
    rcases error_of_bind h with h | ⟨depth, -, h⟩
    · exact entry?_of_readNumber h
    · cases h

/-- Reading an entry for what is open is reading it by itself and filling from it. -/
theorem fill_of_own {k : Nat} {entry : List Char} {own : Location}
    (h : Location.fill {} k entry = .ok own) (known : Location) :
    known.fill k entry = .ok (known.orElse own) := by
  rw [fill_eq_ok_iff] at h ⊢
  obtain ⟨hcount, hstart, hlength, hfile, hjump, hdepth⟩ := h
  refine ⟨hcount, readBound_of_own hstart _, readBound_of_own hlength _,
    readNumber_of_own hfile _, ?_, readNumber_of_own hdepth _⟩
  rw [readJump_eq, hjump]
  rfl

/-- An empty entry adds nothing. -/
theorem fill_nil (known : Location) (k : Nat) : known.fill k [] = .ok known := by
  have hown : Location.fill {} k [] = .ok {} := rfl
  rw [fill_of_own hown, Location.orElse_empty]

/-! ## Both ways over a list of entries -/

section

variable {known last own : Location} {x : List Char × Nat} {xs : List (List Char × Nat)} {e : Error}

/-- Whether an entry can be read by itself. -/
def Readable (x : List Char × Nat) : Prop :=
  ∃ own, Location.fill {} x.2 x.1 = .ok own

theorem decodeFrom_of_own (h : Location.fill {} x.2 x.1 = .ok own) (last : Location)
    (xs : List (List Char × Nat)) :
    decodeFrom last (x :: xs) =
      (decodeFrom (own.orElse last) xs).map fun rest => own.orElse last :: rest := by
  obtain ⟨entry, k⟩ := x
  cases entry with
  | nil =>
      rw [fill_nil, Except.ok.injEq] at h
      subst h
      simp only [decodeFrom, List.isEmpty_nil, ↓reduceIte, Location.empty_orElse]
      cases decodeFrom last xs <;> rfl
  | cons c entry =>
      simp only [decodeFrom, List.isEmpty_cons, Bool.false_eq_true, ↓reduceIte]
      rw [h]
      show (decodeFrom (own.orElse last) xs >>= fun rest => pure (own.orElse last :: rest)) = _
      cases decodeFrom (own.orElse last) xs <;> rfl

theorem decodeFrom_of_error (h : Location.fill {} x.2 x.1 = .error e) (last : Location)
    (xs : List (List Char × Nat)) : decodeFrom last (x :: xs) = .error e := by
  obtain ⟨entry, k⟩ := x
  cases entry with
  | nil =>
      rw [fill_nil] at h
      cases h
  | cons c entry =>
      simp only [decodeFrom, List.isEmpty_cons, Bool.false_eq_true, ↓reduceIte]
      rw [h]
      rfl

theorem settle_of_error (h : known.fill x.2 x.1 = .error e) (xs : List (List Char × Nat)) :
    settle known (x :: xs) = .error e := by
  obtain ⟨entry, k⟩ := x
  cases entry with
  | nil =>
      rw [fill_nil] at h
      cases h
  | cons c entry =>
      simp only [settle, List.isEmpty_cons, Bool.false_eq_true, ↓reduceIte]
      rw [h]
      rfl

/-- The walk back over one entry more: what it defines is taken where the walk before it has left
something open. -/
theorem settle_append_of_own (h : Location.fill {} x.2 x.1 = .ok own) (known : Location)
    (ys : List (List Char × Nat)) :
    settle known (ys ++ [x]) = (settle known ys).map fun l => l.orElse own := by
  induction ys generalizing known with
  | nil =>
      obtain ⟨entry, k⟩ := x
      have hfill := fill_of_own h known
      cases entry with
      | nil =>
          rw [fill_nil, Except.ok.injEq] at hfill
          simp [settle, Except.map, ← hfill]
      | cons c entry =>
          simp only [List.nil_append, settle, List.isEmpty_cons, Bool.false_eq_true, ↓reduceIte]
          rw [hfill]
          show (if (known.orElse own).complete then _ else _) = _
          split <;> rfl
  | cons y ys ih =>
      obtain ⟨entry, k⟩ := y
      rw [List.cons_append, settle, settle]
      split
      · exact ih known
      · cases hfill : known.fill k entry with
        | error e => rfl
        | ok filled =>
            show (if filled.complete then _ else settle filled (ys ++ [x])) =
              Except.map _ (if filled.complete then _ else settle filled ys)
            by_cases hcomplete : filled.complete = true
            · rw [if_pos hcomplete, if_pos hcomplete]
              show Except.ok filled = .ok (filled.orElse own)
              rw [Location.orElse_of_complete hcomplete]
            · rw [if_neg hcomplete, if_neg hcomplete]
              exact ih filled

/-- **Forwards is backwards at every place.**  The forward pass gives what the walks back from the
first, the second and every later entry give, one after another, each filled from the location
before the list. -/
theorem decodeFrom_eq_mapM_settle (last : Location) (xs : List (List Char × Nat)) :
    decodeFrom last xs =
      (List.range xs.length).mapM fun i =>
        (settle {} (xs.take (i + 1)).reverse).map fun l => l.orElse last := by
  induction xs generalizing last with
  | nil => rfl
  | cons x xs ih =>
      rw [List.length_cons, List.range_succ_eq_map, List.mapM_cons, List.mapM_map]
      cases h : Location.fill {} x.2 x.1 with
      | error e =>
          have hfirst : settle {} ((x :: xs).take (0 + 1)).reverse = .error e :=
            settle_of_error h []
          rw [decodeFrom_of_error h, hfirst]
          rfl
      | ok own =>
          have hfirst : settle {} ((x :: xs).take (0 + 1)).reverse = .ok own :=
            settle_append_of_own h {} []
          have hlater : (fun i => (settle {} ((x :: xs).take (i + 1)).reverse).map
                fun l => l.orElse last) ∘ Nat.succ =
              fun i => (settle {} (xs.take (i + 1)).reverse).map
                fun l => l.orElse (own.orElse last) := by
            funext i
            simp only [Function.comp_apply, List.take_succ_cons, List.reverse_cons]
            rw [settle_append_of_own h]
            cases settle {} (xs.take (i + 1)).reverse with
            | error e => rfl
            | ok l => simp only [Except.map, Location.orElse_assoc]
          rw [decodeFrom_of_own h, ih, hfirst, hlater]
          rfl

/-- The forward pass fails at the first entry that cannot be read. -/
theorem decodeFrom_eq_error_iff (last : Location) (xs : List (List Char × Nat)) :
    decodeFrom last xs = .error e ↔
      ∃ before x after, xs = before ++ x :: after ∧ (∀ y ∈ before, Readable y) ∧
        Location.fill {} x.2 x.1 = .error e := by
  induction xs generalizing last with
  | nil => simp [decodeFrom]
  | cons y ys ih =>
      cases h : Location.fill {} y.2 y.1 with
      | error f =>
          rw [decodeFrom_of_error h, Except.error.injEq]
          constructor
          · intro hfe
            exact ⟨[], y, ys, rfl, by simp, hfe ▸ h⟩
          · rintro ⟨before, x, after, hsplit, hbefore, hx⟩
            cases before with
            | nil =>
                obtain ⟨rfl, -⟩ := List.cons.inj hsplit
                rw [h] at hx
                exact Except.error.inj hx
            | cons z before =>
                obtain ⟨rfl, -⟩ := List.cons.inj hsplit
                obtain ⟨own, hown⟩ := hbefore y List.mem_cons_self
                rw [h] at hown
                cases hown
      | ok own =>
          have hmap : decodeFrom last (y :: ys) = .error e ↔
              decodeFrom (own.orElse last) ys = .error e := by
            rw [decodeFrom_of_own h]
            cases decodeFrom (own.orElse last) ys <;> simp [Except.map]
          rw [hmap, ih]
          constructor
          · rintro ⟨before, x, after, rfl, hbefore, hx⟩
            refine ⟨y :: before, x, after, rfl, ?_, hx⟩
            intro z hz
            rcases List.mem_cons.mp hz with rfl | hz
            · exact ⟨own, h⟩
            · exact hbefore z hz
          · rintro ⟨before, x, after, hsplit, hbefore, hx⟩
            cases before with
            | nil =>
                obtain ⟨rfl, -⟩ := List.cons.inj hsplit
                rw [h] at hx
                cases hx
            | cons z before =>
                obtain ⟨rfl, rfl⟩ := List.cons.inj hsplit
                exact ⟨before, x, after, rfl,
                  fun w hw => hbefore w (List.mem_cons_of_mem _ hw), hx⟩

/-- The walk back over entries that can be read ends in a location. -/
theorem exists_settle_of_readable (h : ∀ y ∈ xs, Readable y) (known : Location) :
    ∃ l, settle known xs = .ok l := by
  induction xs generalizing known with
  | nil => exact ⟨known, rfl⟩
  | cons y ys ih =>
      have hys : ∀ z ∈ ys, Readable z := fun z hz => h z (List.mem_cons_of_mem _ hz)
      obtain ⟨own, hown⟩ := h y List.mem_cons_self
      obtain ⟨entry, k⟩ := y
      rw [settle]
      split
      · exact ih hys known
      · rw [fill_of_own hown known]
        show ∃ l, (if (known.orElse own).complete then _ else _) = _
        split
        · exact ⟨_, rfl⟩
        · exact ih hys _

end

/-! ## Whole maps -/

theorem atIndex_of_lt {map : List Char} {i : Nat} (h : i < (entries map).length) :
    atIndex (.num i) map = settle {} ((entries map).zipIdx.take (i + 1)).reverse := by
  have hrange : ¬ ((Integer.num i).value < 0 ∨ (entries map).length ≤ (Integer.num i).value) := by
    simp only [Integer.value]
    omega
  simp only [atIndex, if_neg hrange]
  rfl

/-- Of the numbered entries, one is numbered with how many stand before it. -/
theorem number_of_zipIdx_split {α : Type} {entries : List α} {before after : List (α × Nat)}
    {x : α × Nat} (hsplit : entries.zipIdx = before ++ x :: after) :
    before.length < entries.length ∧ x.2 = before.length := by
  constructor
  · have hlength := congrArg List.length hsplit
    rw [List.length_zipIdx, List.length_append, List.length_cons] at hlength
    omega
  · have hplace : entries.zipIdx[before.length]? = some x := by
      rw [hsplit, List.getElem?_append_right (Nat.le_refl _), Nat.sub_self]
      rfl
    rw [List.getElem?_zipIdx, Option.map_eq_some_iff] at hplace
    obtain ⟨entry, -, rfl⟩ := hplace
    exact Nat.zero_add _

section

variable {map : List Char} {before after : List (List Char × Nat)} {x : List Char × Nat}
  (hsplit : (entries map).zipIdx = before ++ x :: after)
include hsplit

/-- Among entries that can be read, every index has a location. -/
theorem exists_atIndex_of_readable (hbefore : ∀ y ∈ before, Readable y) {i : Nat}
    (hi : i < before.length) : ∃ l, atIndex (.num i) map = .ok l := by
  have hlength := (number_of_zipIdx_split hsplit).1
  rw [atIndex_of_lt (by omega), hsplit, List.take_append_of_le_length (by omega)]
  apply exists_settle_of_readable
  intro y hy
  exact hbefore y (List.mem_of_mem_take (List.mem_reverse.mp hy))

/-- The index of an entry that cannot be read fails with the error of that entry. -/
theorem atIndex_of_error {e : Error} (hx : Location.fill {} x.2 x.1 = .error e) :
    atIndex (.num before.length) map = .error e := by
  rw [atIndex_of_lt (number_of_zipIdx_split hsplit).1, hsplit, List.take_append,
    List.take_of_length_le (by omega), Nat.add_sub_cancel_left, List.take_succ_cons,
    List.take_zero, List.reverse_append]
  exact settle_of_error hx _

end

/-- Where a whole map has a location, the walk back from there ends in it. -/
theorem atIndex_of_decode {map : List Char} {locations : List Location} {i : Nat} {l : Location}
    (h : decode map = .ok locations) (hl : locations[i]? = some l) :
    atIndex (.num i) map = .ok l := by
  rw [decode, decodeFrom_eq_mapM_settle, List.length_zipIdx] at h
  have hplace := congrArg (fun results => results[i]?) (map_of_mapM_eq_ok h)
  simp only [List.getElem?_map, hl, Option.map_some, Option.map_eq_some_iff] at hplace
  obtain ⟨j, hj, hsettle⟩ := hplace
  obtain ⟨hi, rfl⟩ := List.getElem?_eq_some_iff.mp hj
  rw [List.length_range] at hi
  rw [List.getElem_range] at hsettle
  rw [atIndex_of_lt hi]
  cases hwalk : settle {} ((entries map).zipIdx.take (i + 1)).reverse with
  | error e =>
      rw [hwalk] at hsettle
      cases hsettle
  | ok known =>
      rw [hwalk] at hsettle
      simpa [Except.map] using hsettle

/-- **A whole map is its indices.**  The locations of a whole map are those of its indices, from
the first on, and where an index has none, the whole map has none for the same reason.  An error of
the whole map blames the entry of the first index that fails. -/
theorem decode_eq_mapM_atIndex (map : List Char) :
    decode map = (List.range (entries map).length).mapM (fun i : Nat => atIndex (.num i) map) ∧
      ∀ e, decode map = .error e →
        ∃ k < (entries map).length, e.entry? = some k ∧
          (∀ i : Nat, i < k → ∃ l, atIndex (.num i) map = .ok l) ∧
            atIndex (.num k) map = .error e := by
  constructor
  · rw [decode, decodeFrom_eq_mapM_settle, List.length_zipIdx]
    apply mapM_congr
    intro i hi
    rw [atIndex_of_lt (List.mem_range.mp hi)]
    cases settle {} ((entries map).zipIdx.take (i + 1)).reverse with
    | error e => rfl
    | ok l => simp only [Except.map, Location.orElse_empty]
  · intro e he
    obtain ⟨before, x, after, hsplit, hbefore, hx⟩ := (decodeFrom_eq_error_iff _ _).mp he
    obtain ⟨hk, hnumber⟩ := number_of_zipIdx_split hsplit
    refine ⟨before.length, hk, ?_, ?_, ?_⟩
    · rw [← hnumber]
      exact entry?_of_fill hx
    · intro i hi
      exact exists_atIndex_of_readable hsplit hbefore hi
    · exact atIndex_of_error hsplit hx

end SourceMap

end EvmLocator
