import EvmLocator.Proofs.Source.Position
import EvmLocator.Proofs.Utf8
import EvmLocator.Report
import EvmLocator.SourceMap.Lookup

/-!
# Where an entry says its text is, and the text it shows

An entry of a report shows a location of a file twice, by the positions at which it begins and ends
and by the text that stands there.  The positions come from the two numbers of the location, and
the text from a slice of the file with the same numbers.

Where neither number is below zero the two are one: positions are in the order of their offsets, so
the bytes between the two positions are the bytes between the two offsets, and both views stop at
the end of the file.

Where a number is below zero there are no positions, but there may be a text, since a bound of a
slice that is below zero counts from the end of the file.  A source map can say such numbers, as only
the text `-1` leaves a number open.

## Main results

* `Source.bytesBetween_offsets`: the bytes between the positions of two offsets.
* `Source.excerpt_of_span`: a location with positions shows the bytes between them.
* `Report.entry_consistent_iff`: exactly which entries show a text without saying where it is.
-/

namespace EvmLocator

/-! ## The bytes between two positions -/

/-- Items whose numbers lie between two bounds are those between the bounds. -/
theorem map_filter_zipIdx {α : Type} (xs : List α) (a b k : Nat) :
    ((xs.zipIdx k).filter fun item => decide (a ≤ item.2 ∧ item.2 < b)).map Prod.fst =
      (xs.take (b - k)).drop (a - k) := by
  induction xs generalizing k with
  | nil => simp
  | cons x xs ih =>
      rw [List.zipIdx_cons, List.filter_cons]
      rcases Nat.lt_or_ge k b with hb | hb
      · have htake : b - k = b - (k + 1) + 1 := by omega
        rcases Nat.lt_or_ge k a with ha | ha
        · have hdrop : a - k = a - (k + 1) + 1 := by omega
          rw [if_neg (by simp; omega), ih, htake, hdrop, List.take_succ_cons,
            List.drop_succ_cons]
        · have hdrop : a - (k + 1) = 0 := by omega
          rw [if_pos (by simp; omega), List.map_cons, ih, htake, List.take_succ_cons, hdrop,
            Nat.sub_eq_zero_of_le ha, List.drop_zero, List.drop_zero]
      · have hnone : b - (k + 1) = 0 := by omega
        rw [if_neg (by simp; omega), ih, hnone, Nat.sub_eq_zero_of_le hb]
        simp

namespace Source

/-- The position of an offset in a file. -/
def positionAt (source : Source) (offset : Nat) : Position :=
  Position.ofOffset (source.breaks.map Int.ofNat) offset

/-- The bytes of a file that are not before one position but before another, by the positions at
which they stand. -/
def bytesBetween (source : Source) (s : Span) : List UInt8 :=
  (source.content.zipIdx.filter fun item =>
    decide (¬ (source.positionAt item.2).Before s.first ∧
      (source.positionAt item.2).Before s.last)).map Prod.fst

/-- The bytes between the positions of two offsets are those between the offsets. -/
theorem bytesBetween_offsets (source : Source) (a b : Nat) :
    source.bytesBetween { first := source.positionAt a, last := source.positionAt b } =
      (source.content.take b).drop a := by
  have hbefore : ∀ i j : Nat, (source.positionAt i).Before (source.positionAt j) ↔ i < j :=
    fun i j => Position.ofOffset_before_iff 0x0a source.content
  have hslice := map_filter_zipIdx source.content a b 0
  rw [Nat.sub_zero, Nat.sub_zero] at hslice
  rw [bytesBetween, ← hslice]
  simp only [hbefore, Nat.not_lt]

/-! ## Locations with positions, and without -/

/-- A location has positions if it has two numbers and neither is below zero. -/
theorem span_eq_some_iff {source : Source} {l : Location} {s : Span} :
    source.span l = some s ↔ ∃ start length : Nat, l.start = some (start : Int) ∧
      l.length = some (length : Int) ∧
      s = { first := source.positionAt start, last := source.positionAt (start + length) } := by
  unfold span Span.ofLocation
  constructor
  · intro h
    split at h
    · next start length hstart hlength =>
        split at h
        · next hpositive =>
            obtain ⟨a, rfl⟩ := Int.eq_ofNat_of_zero_le hpositive.1
            obtain ⟨b, rfl⟩ := Int.eq_ofNat_of_zero_le hpositive.2
            exact ⟨a, b, hstart, hlength, (Option.some.inj h).symm⟩
        · cases h
    · cases h
  · rintro ⟨a, b, hstart, hlength, rfl⟩
    rw [hstart, hlength]
    simp only
    rw [if_pos ⟨Int.natCast_nonneg _, Int.natCast_nonneg _⟩]
    rfl

theorem span_eq_none_iff {source : Source} {l : Location} :
    source.span l = none ↔ ∀ start length, l.start = some start → l.length = some length →
      start < 0 ∨ length < 0 := by
  unfold span Span.ofLocation
  cases l.start with
  | none => simp
  | some start =>
      cases l.length with
      | none => simp
      | some length =>
          simp only [Option.some.injEq]
          constructor
          · intro h a b ha hb
            split at h
            · cases h
            · omega
          · intro h
            have hbelow := h start length rfl rfl
            rw [if_neg (by omega)]

/-- A location with positions shows the bytes between them. -/
theorem excerpt_of_span {source : Source} {l : Location} {s : Span}
    (h : source.span l = some s) :
    source.excerpt l = Utf8.decodeLossy (source.bytesBetween s) := by
  obtain ⟨start, length, hstart, hlength, rfl⟩ := span_eq_some_iff.mp h
  rw [bytesBetween_offsets, ← Slice.between_of_nat, excerpt, hstart, hlength, Int.natCast_add]

end Source

/-- Whether the numbers of a location, of which one is below zero, cut something out of `n` bytes
all the same, because a bound below zero counts from the end. -/
def Location.CountsBack (l : Location) (n : Nat) : Prop :=
  ∃ start length, l.start = some start ∧ l.length = some length ∧ (start < 0 ∨ length < 0) ∧
    Slice.position n start < Slice.position n (start + length)

/-- A location that counts back has no positions. -/
theorem Source.span_eq_none_of_countsBack {source : Source} {l : Location} {n : Nat}
    (h : l.CountsBack n) : source.span l = none := by
  obtain ⟨start, length, hstart, hlength, hbelow, -⟩ := h
  rw [Source.span_eq_none_iff]
  intro a b ha hb
  rw [hstart, Option.some.injEq] at ha
  rw [hlength, Option.some.injEq] at hb
  rwa [← ha, ← hb]

/-- A location without positions shows something exactly if it counts back. -/
theorem Source.excerpt_ne_nil_iff {source : Source} {l : Location} (h : source.span l = none) :
    source.excerpt l ≠ [] ↔ l.CountsBack source.content.length := by
  have hbelow := Source.span_eq_none_iff.mp h
  unfold Source.excerpt
  constructor
  · intro hshown
    split at hshown
    · next start length hstart hlength =>
        rw [ne_eq, Utf8.decodeLossy_eq_nil_iff, Slice.between_eq_nil_iff, Nat.not_le] at hshown
        exact ⟨start, length, hstart, hlength, hbelow start length hstart hlength, hshown⟩
    · exact absurd rfl hshown
  · rintro ⟨start, length, hstart, hlength, -, hcut⟩
    rw [hstart, hlength, ne_eq, Utf8.decodeLossy_eq_nil_iff, Slice.between_eq_nil_iff, Nat.not_le]
    exact hcut

/-! ## Entries -/

theorem Position.toJson_injective {p q : Position} (h : p.toJson = q.toJson) : p = q := by
  simp only [Position.toJson, Json.obj.injEq, List.cons.injEq, Prod.mk.injEq, Json.int.injEq,
    true_and, and_true, Int.natCast_inj] at h
  obtain ⟨line, column⟩ := p
  exact (Position.mk.injEq ..).mpr h

/-- The positions of an entry can be told from its document. -/
theorem Span.toJson_injective {s t : Option Span} (h : Span.toJson s = Span.toJson t) : s = t := by
  cases s with
  | none =>
      cases t with
      | none => rfl
      | some t => simp [Span.toJson, Position.toJson] at h
  | some s =>
      cases t with
      | none => simp [Span.toJson, Position.toJson] at h
      | some t =>
          simp only [Span.toJson, Json.obj.injEq, List.cons.injEq, Prod.mk.injEq, true_and,
            and_true] at h
          have hfirst := Position.toJson_injective h.1
          have hlast := Position.toJson_injective h.2
          obtain ⟨first, last⟩ := s
          exact congrArg some ((Span.mk.injEq ..).mpr ⟨hfirst, hlast⟩)

namespace Report

variable {r : Report} {l : Location} {source : Source}

theorem lineColumn_entry (h : r.sources.get? l.fileKey = some source) (address : String)
    (step index : Option Integer) :
    (r.entry address l step index).lineColumn = Span.toJson (source.span l) := by
  simp [entry, ReportEntry.lineColumn, h, Source.passage]

theorem contentJson_entry (h : r.sources.get? l.fileKey = some source) (address : String)
    (step index : Option Integer) :
    (r.entry address l step index).contentJson = .str (String.ofList (source.excerpt l)) := by
  simp [entry, ReportEntry.contentJson, h, Source.passage]

/-- **What an entry shows, and where it says that is.**  An entry of a file at hand has a position
at both ends or at neither.  With positions, its text is that of the bytes between them.  Without,
its text is empty exactly if the location does not count back from the end of the file. -/
theorem entry_consistent_iff (h : r.sources.get? l.fileKey = some source) (address : String)
    (step index : Option Integer) :
    ((∃ s, (r.entry address l step index).lineColumn = Span.toJson (some s)) ∨
      (r.entry address l step index).lineColumn = Span.toJson none) ∧
    (∀ s, (r.entry address l step index).lineColumn = Span.toJson (some s) →
      (r.entry address l step index).contentJson =
        .str (String.ofList (Utf8.decodeLossy (source.bytesBetween s)))) ∧
    (((r.entry address l step index).lineColumn = Span.toJson none →
      (r.entry address l step index).contentJson = .str "") ↔
        ¬ l.CountsBack source.content.length) := by
  rw [lineColumn_entry h, contentJson_entry h]
  refine ⟨?_, fun s hs => ?_, fun hempty hback => ?_, fun hback hnone => ?_⟩
  · cases source.span l with
    | none => exact Or.inr rfl
    | some s => exact Or.inl ⟨s, rfl⟩
  · rw [Source.excerpt_of_span (Span.toJson_injective hs)]
  · have hnone : source.span l = none := Source.span_eq_none_of_countsBack hback
    have htext := hempty (congrArg Span.toJson hnone)
    rw [Json.str.injEq, String.ofList_eq_empty_iff] at htext
    exact (Source.excerpt_ne_nil_iff hnone).mpr hback htext
  · have hempty : source.excerpt l = [] := Decidable.byContradiction fun hshown =>
      hback ((Source.excerpt_ne_nil_iff (Span.toJson_injective hnone)).mp hshown)
    rw [hempty]

/-- A location that runs past the end of its file shows what there is, and nothing is counted from
the end. -/
theorem entry_consistent_iff_sample :
    let source := Source.ofText "ab\ncd".toList
    let r := Report.setSource {} (.int 0) source
    let l : Location := { start := some 1, length := some 9, file := some 0 }
    let s : Span := { first := { line := 0, column := 1 }, last := { line := 1, column := 7 } }
    r.sources.get? l.fileKey = some source ∧
      (r.entry "0xabc" l none none).lineColumn = Span.toJson (some s) ∧
      (r.entry "0xabc" l none none).contentJson =
        .str (String.ofList (Utf8.decodeLossy (source.bytesBetween s))) ∧
      Utf8.decodeLossy (source.bytesBetween s) = "b\ncd".toList ∧
      ¬ l.CountsBack source.content.length := by
  intro source r l s
  have hsource : r.sources.get? l.fileKey = some source := rfl
  have hspan : (r.entry "0xabc" l none none).lineColumn = Span.toJson (some s) := rfl
  obtain ⟨-, hbetween, hback⟩ := entry_consistent_iff hsource "0xabc" none none
  refine ⟨hsource, hspan, hbetween s hspan, by decide +kernel, hback.mp fun hnone => ?_⟩
  cases Span.toJson_injective (hspan.symm.trans hnone)

/-- The source map gives this location, whose start counts from the end of the file: the entry has
no positions and shows a text. -/
theorem counts_back_without_positions :
    let source := Source.ofText "abcdef".toList
    let r := Report.setSource {} (.int 0) source
    let l : Location :=
      { start := some (-3), length := some 2, file := some 0, jump := some "-" }
    SourceMap.atIndex (.num 0) "-3:2:0:-".toList = .ok l ∧
      r.sources.get? l.fileKey = some source ∧
      (r.entry "0xabc" l none (some (.num 0))).lineColumn = Span.toJson none ∧
      (r.entry "0xabc" l none (some (.num 0))).contentJson = .str "de" ∧
      ¬ ((r.entry "0xabc" l none (some (.num 0))).lineColumn = Span.toJson none →
        (r.entry "0xabc" l none (some (.num 0))).contentJson = .str "") := by
  intro source r l
  have htext : (r.entry "0xabc" l none (some (.num 0))).contentJson = .str "de" := rfl
  refine ⟨rfl, rfl, rfl, htext, fun hempty => ?_⟩
  have hnothing := hempty rfl
  rw [htext, Json.str.injEq] at hnothing
  exact absurd hnothing (by decide)

end Report

end EvmLocator
