import EvmLocator.Source.Position
import Mathlib.Data.List.DropRight

/-!
# Lines and columns as counts

A position is found from the offsets of line ends, and these are found from the content, so a
position is a fact about the content: the line of an offset is the number of line ends before it,
and its column is what lies between it and the last of these.

The offsets of the line ends before an offset are those of the content up to there, and all others
begin at the offset (`lineBreaks_append`).  Of the latter at most one is not past the offset, the
line end that stands on it, and that one closes the line of the offset and does not count.

## Main results

* `lineBreaks_append`: the line ends of two contents one after the other.
* `ofOffset_append`: what is past an offset has no part in its position.
* `ofOffset_lineBreaks`: the position of an offset within the content, or past its end.
* `lineStart_count`, `lineStart_append`: where a line begins, by its number.
* `ofOffset_before_iff`: positions are in the order of their offsets.
* `ofOffset_exact_and_ordered`: positions say offsets exactly, and in order.
-/

namespace EvmLocator

variable {α : Type} [BEq α] (newline : α)

/-! ## The offsets of line ends -/

theorem lineBreaks_append (xs ys : List α) :
    lineBreaks newline (xs ++ ys) =
      lineBreaks newline xs ++ (lineBreaks newline ys).map (· + xs.length) := by
  have hshift : ys.zipIdx xs.length = ys.zipIdx.map fun item => (item.1, item.2 + xs.length) := by
    rw [List.zipIdx_eq_map_add]
    simp [Nat.add_comm]
  simp only [lineBreaks, List.zipIdx_append, List.filterMap_append, Nat.zero_add, hshift,
    List.filterMap_map, List.map_filterMap]
  congr 2
  funext item
  by_cases h : item.1 == newline <;> simp [h]

theorem lineBreaks_singleton (x : α) :
    lineBreaks newline [x] = if x == newline then [0] else [] := by
  by_cases h : x == newline <;> simp [lineBreaks, h]

theorem lineBreaks_cons (x : α) (xs : List α) :
    lineBreaks newline (x :: xs) =
      (if x == newline then [0] else []) ++ (lineBreaks newline xs).map (· + 1) := by
  rw [← List.singleton_append, lineBreaks_append, lineBreaks_singleton, List.length_singleton]

theorem lt_length_of_mem_lineBreaks {xs : List α} : ∀ b ∈ lineBreaks newline xs, b < xs.length := by
  intro b hb
  simp only [lineBreaks, List.mem_filterMap] at hb
  obtain ⟨⟨x, n⟩, hitem, hb⟩ := hb
  have hn := (List.mem_zipIdx hitem).2.1
  split at hb
  · rw [Option.some.injEq] at hb
    omega
  · cases hb

/-- There are as many offsets as line ends. -/
theorem length_lineBreaks (xs : List α) : (lineBreaks newline xs).length = xs.count newline := by
  induction xs with
  | nil => rfl
  | cons x xs ih =>
      rw [lineBreaks_cons, List.length_append, List.length_map, ih, List.count_cons]
      by_cases h : x == newline
      · simp [h, Nat.add_comm]
      · simp [h]

/-- The offset at which the last line of a content begins. -/
def lastLineStart (breaks : List Nat) : Nat :=
  match breaks.getLast? with
  | some b => b + 1
  | none => 0

/-- The last line of a content is what follows its last line end. -/
theorem lastLineStart_add_length (xs : List α) :
    lastLineStart (lineBreaks newline xs) + (xs.rtakeWhile fun x => !(x == newline)).length =
      xs.length := by
  induction xs using List.reverseRecOn with
  | nil => rfl
  | append_singleton xs x ih =>
      rw [lineBreaks_append, lineBreaks_singleton, List.rtakeWhile_concat, List.length_append,
        List.length_singleton]
      by_cases h : x == newline
      · simp [h, lastLineStart]
      · simp only [h, Bool.false_eq_true, ↓reduceIte, List.map_nil, List.append_nil, Bool.not_false,
          List.length_append, List.length_singleton]
        omega

/-! ## Positions -/

/-- Of the offsets in order, those not past a given one: all that are before it, and the offset
itself if a line end stands on it. -/
theorem takeWhile_le_append {before here past : List Nat} {offset : Nat}
    (hbefore : ∀ b ∈ before, b < offset) (hhere : ∀ b ∈ here, b = offset)
    (hpast : ∀ b ∈ past, offset < b) :
    ((before ++ here ++ past).map Int.ofNat).takeWhile (fun b => decide (b ≤ (offset : Int))) =
      (before ++ here).map Int.ofNat := by
  have hreached : ∀ b ∈ (before ++ here).map Int.ofNat, decide (b ≤ (offset : Int)) = true := by
    intro b hb
    obtain ⟨n, hn, rfl⟩ := List.mem_map.mp hb
    have hle : n ≤ offset := by
      rcases List.mem_append.mp hn with hn | hn
      · exact Nat.le_of_lt (hbefore n hn)
      · exact Nat.le_of_eq (hhere n hn)
    exact decide_eq_true (Int.ofNat_le.mpr hle)
  have hstops : (past.map Int.ofNat).takeWhile (fun b => decide (b ≤ (offset : Int))) = [] := by
    cases past with
    | nil => rfl
    | cons b past =>
        have hb := hpast b List.mem_cons_self
        rw [List.map_cons, List.takeWhile_cons, if_neg]
        rw [decide_eq_true_eq]
        show ¬ (b : Int) ≤ offset
        omega
  rw [List.map_append, List.takeWhile_append_of_pos hreached, hstops, List.append_nil]

section

variable {before past : List Nat} {offset : Nat} (stands : Bool)

/-- The line of an offset: a line end that stands on the offset does not count. -/
theorem Position.line_ofOffset_append (hbefore : ∀ b ∈ before, b < offset)
    (hpast : ∀ b ∈ past, offset < b) :
    (Position.ofOffset
      ((before ++ (if stands then [offset] else []) ++ past).map Int.ofNat) offset).line =
        before.length := by
  have hhere : ∀ b ∈ (if stands then [offset] else []), b = offset := by
    cases stands <;> simp
  unfold Position.ofOffset
  simp only [takeWhile_le_append hbefore hhere hpast]
  cases stands with
  | true =>
      have hpassed : ((before ++ [offset]).map Int.ofNat).length = before.length + 1 := by simp
      have hlast : ((before ++ [offset] ++ past).map Int.ofNat)[before.length]? =
          some (offset : Int) := by simp
      simp only [↓reduceIte, hpassed, Nat.add_sub_cancel, hlast, and_true, Nat.zero_lt_succ]
  | false =>
      have hpassed : ((before ++ []).map Int.ofNat).length = before.length := by simp
      simp only [Bool.false_eq_true, ↓reduceIte, hpassed]
      rw [if_neg]
      rintro ⟨hpos, hlast⟩
      rw [List.append_nil, List.map_append,
        List.getElem?_append_left (by rw [List.length_map]; omega), List.getElem?_map,
        List.getElem?_eq_getElem (by omega), Option.map_some, Option.some.injEq] at hlast
      have hlt := hbefore _ (List.getElem_mem (show before.length - 1 < before.length by omega))
      have heq := Int.ofNat.inj hlast
      omega

/-- What is past an offset has no part in its position. -/
theorem Position.ofOffset_append (hbefore : ∀ b ∈ before, b < offset)
    (hpast : ∀ b ∈ past, offset < b) :
    Position.ofOffset ((before ++ (if stands then [offset] else []) ++ past).map Int.ofNat) offset =
      { line := before.length, column := (offset : Int) - lastLineStart before } := by
  have hline := Position.line_ofOffset_append stands hbefore hpast
  unfold Position.ofOffset at hline ⊢
  simp only at hline ⊢
  rw [hline, Position.mk.injEq]
  refine ⟨rfl, ?_⟩
  by_cases hempty : before.length = 0
  · rw [if_pos hempty, List.length_eq_zero_iff.mp hempty]
    rfl
  · have hlt : before.length - 1 < before.length := by omega
    have hlast : before.getLast? = some before[before.length - 1] := by
      rw [List.getLast?_eq_getElem?, List.getElem?_eq_getElem hlt]
    rw [if_neg hempty, List.getD_eq_getElem?_getD, List.append_assoc, List.map_append,
      List.getElem?_append_left (by rw [List.length_map]; exact hlt), List.getElem?_map,
      List.getElem?_eq_getElem hlt, lastLineStart, hlast]
    rfl

end

/-- **The position of an offset.**  Its line is the number of line ends before it, and its column is
how far it is from the beginning of that line. -/
theorem Position.ofOffset_lineBreaks (content : List α) (offset : Nat) :
    Position.ofOffset ((lineBreaks newline content).map Int.ofNat) offset =
      { line := (content.take offset).count newline
        column := (offset : Int) - lastLineStart (lineBreaks newline (content.take offset)) } := by
  have hbefore : ∀ b ∈ lineBreaks newline (content.take offset), b < offset := by
    intro b hb
    have hlt := lt_length_of_mem_lineBreaks newline b hb
    rw [List.length_take] at hlt
    omega
  rw [← length_lineBreaks]
  by_cases hwithin : offset < content.length
  · have hsplit :
        content = content.take offset ++ content[offset] :: content.drop (offset + 1) := by
      rw [List.getElem_cons_drop, List.take_append_drop]
    have hpast : ∀ b ∈ (lineBreaks newline (content.drop (offset + 1))).map (· + (offset + 1)),
        offset < b := by
      intro b hb
      obtain ⟨n, -, rfl⟩ := List.mem_map.mp hb
      omega
    have hbreaks : lineBreaks newline content = lineBreaks newline (content.take offset) ++
        (if content[offset] == newline then [offset] else []) ++
        (lineBreaks newline (content.drop (offset + 1))).map (· + (offset + 1)) := by
      conv => lhs; rw [hsplit]
      rw [lineBreaks_append, lineBreaks_cons, List.length_take, Nat.min_eq_left (by omega),
        List.map_append, List.map_map, List.append_assoc]
      congr 2
      · split <;> simp
      · apply List.map_congr_left
        intro b _
        show b + 1 + offset = b + (offset + 1)
        omega
    rw [hbreaks, Position.ofOffset_append _ hbefore hpast]
  · have hall : content.take offset = content := List.take_of_length_le (by omega)
    have hnone : ∀ b ∈ ([] : List Nat), offset < b := nofun
    have hposition := Position.ofOffset_append false hbefore hnone
    rw [hall] at hposition ⊢
    simpa using hposition

/-! ## Where a line begins -/

/-- The offset at which the line of a number begins: at zero, or behind the line end before it. -/
def lineStart : List α → Nat → Nat
  | _, 0 => 0
  | [], _ + 1 => 0
  | x :: xs, n + 1 => lineStart xs (if x == newline then n else n + 1) + 1

/-- Whether the last line of a content begins at an offset: at zero if there is no line end, else
one past the last of them. -/
inductive LastLineBegins (content : List α) : Nat → Prop
  | first (only : ∀ x ∈ content, (x == newline) = false) : LastLineBegins content 0
  | behind {before line : List α} {x : α} (split : content = before ++ x :: line)
      (ends : (x == newline) = true) (last : ∀ y ∈ line, (y == newline) = false) :
      LastLineBegins content (before.length + 1)

theorem LastLineBegins.le_length {content : List α} {start : Nat}
    (h : LastLineBegins newline content start) : start ≤ content.length := by
  cases h with
  | first only => exact Nat.zero_le _
  | behind split ends last =>
      rw [split, List.length_append, List.length_cons]
      omega

/-- One more item begins a new line behind it, or is on the last line. -/
theorem lastLineBegins_lastLineStart (content : List α) :
    LastLineBegins newline content (lastLineStart (lineBreaks newline content)) := by
  induction content using List.reverseRecOn with
  | nil => exact .first nofun
  | append_singleton content x ih =>
      rw [lineBreaks_append, lineBreaks_singleton]
      by_cases hx : x == newline
      · have hstart : lastLineStart (lineBreaks newline content ++
            (if x == newline then [0] else []).map (· + content.length)) = content.length + 1 := by
          simp [hx, lastLineStart]
        rw [hstart]
        exact .behind rfl hx nofun
      · rw [if_neg hx, List.map_nil, List.append_nil]
        rw [Bool.not_eq_true] at hx
        have hmore : ∀ {line : List α}, (∀ y ∈ line, (y == newline) = false) →
            ∀ y ∈ line ++ [x], (y == newline) = false := fun hline y hy => by
          rcases List.mem_append.mp hy with hy | hy
          · exact hline y hy
          · rwa [List.mem_singleton.mp hy]
        generalize lastLineStart (lineBreaks newline content) = start at ih
        cases ih with
        | first only => exact .first (hmore only)
        | behind split ends last =>
            exact .behind (by rw [split, List.append_assoc, List.cons_append]) ends (hmore last)

theorem lastLineStart_zero_cons (breaks : List Nat) :
    lastLineStart (0 :: breaks.map (· + 1)) = lastLineStart breaks + 1 := by
  rcases List.eq_nil_or_concat breaks with rfl | ⟨before, b, rfl⟩
  · rfl
  · have hlast : (0 :: (before.map (· + 1) ++ [b + 1])).getLast? = some (b + 1) := by
      rw [← List.cons_append, List.getLast?_concat]
    simp [lastLineStart, hlast]

theorem lastLineStart_map_succ {breaks : List Nat} (h : breaks ≠ []) :
    lastLineStart (breaks.map (· + 1)) = lastLineStart breaks + 1 := by
  rcases List.eq_nil_or_concat breaks with rfl | ⟨before, b, rfl⟩
  · exact absurd rfl h
  · rw [List.concat_eq_append, List.map_append]
    simp [lastLineStart]

/-- The beginning of the last line, by its number. -/
theorem lineStart_count (content : List α) :
    lineStart newline content (content.count newline) =
      lastLineStart (lineBreaks newline content) := by
  induction content with
  | nil => rfl
  | cons x xs ih =>
      rw [List.count_cons, lineBreaks_cons]
      by_cases hx : x == newline
      · rw [if_pos hx, if_pos hx, lineStart, if_pos hx, ih, List.singleton_append,
          lastLineStart_zero_cons]
      · rw [if_neg hx, if_neg hx, Nat.add_zero, List.nil_append]
        cases hcount : xs.count newline with
        | zero =>
            have hnone : lineBreaks newline xs = [] := by
              rw [← List.length_eq_zero_iff, length_lineBreaks, hcount]
            rw [hnone]
            rfl
        | succ n =>
            have hne : lineBreaks newline xs ≠ [] := by
              rw [← List.length_pos_iff, length_lineBreaks, hcount]
              exact n.succ_pos
            rw [lineStart, if_neg hx, ← hcount, ih, lastLineStart_map_succ hne]

/-- What follows a line has no part in where it begins. -/
theorem lineStart_append {xs : List α} {n : Nat} (h : n ≤ xs.count newline) (ys : List α) :
    lineStart newline (xs ++ ys) n = lineStart newline xs n := by
  induction xs generalizing n with
  | nil =>
      rw [List.count_nil, Nat.le_zero] at h
      rw [h, List.nil_append, lineStart, lineStart]
  | cons x xs ih =>
      cases n with
      | zero => rw [lineStart, lineStart]
      | succ n =>
          rw [List.count_cons] at h
          rw [List.cons_append, lineStart, lineStart, ih]
          split at h <;> simp_all

/-! ## The order of positions -/

namespace Position

/-- Whether a position is on an earlier line than another, or earlier on the same line. -/
def Before (p q : Position) : Prop :=
  p.line < q.line ∨ p.line = q.line ∧ p.column < q.column

instance (p q : Position) : Decidable (p.Before q) := by
  unfold Before
  infer_instance

theorem Before.asymm {p q : Position} (h : p.Before q) : ¬ q.Before p := by
  unfold Before at h ⊢
  omega

theorem not_before_self (p : Position) : ¬ p.Before p := fun h => h.asymm h

variable (content : List α)

/-- Between an offset and a later one there is a line end, or both are on one line. -/
theorem ofOffset_before_of_lt {i j : Nat} (h : i < j) :
    (ofOffset ((lineBreaks newline content).map Int.ofNat) i).Before
      (ofOffset ((lineBreaks newline content).map Int.ofNat) j) := by
  have hsplit : content.take j = content.take i ++ (content.take j).drop i := by
    have htake : (content.take j).take i = content.take i := by
      rw [List.take_take, Nat.min_eq_left (Nat.le_of_lt h)]
    rw [← htake, List.take_append_drop]
  rw [ofOffset_lineBreaks, ofOffset_lineBreaks, hsplit, List.count_append, lineBreaks_append]
  generalize (content.take j).drop i = between
  by_cases hline : between.count newline = 0
  · have hnone : lineBreaks newline between = [] := by
      rw [← List.length_eq_zero_iff, length_lineBreaks, hline]
    rw [hnone, List.map_nil, List.append_nil, hline]
    refine Or.inr ⟨rfl, ?_⟩
    show (i : Int) - _ < (j : Int) - _
    omega
  · refine Or.inl ?_
    show (content.take i).count newline < (content.take i).count newline + between.count newline
    omega

/-- **Positions are in the order of their offsets.** -/
theorem ofOffset_before_iff {i j : Nat} :
    (ofOffset ((lineBreaks newline content).map Int.ofNat) i).Before
      (ofOffset ((lineBreaks newline content).map Int.ofNat) j) ↔ i < j := by
  refine ⟨fun h => ?_, ofOffset_before_of_lt newline content⟩
  rcases Nat.lt_trichotomy i j with hlt | rfl | hgt
  · exact hlt
  · exact absurd h (not_before_self _)
  · exact absurd h (ofOffset_before_of_lt newline content hgt).asymm

/-- **Lines and columns are exact, reversible and ordered.**  For every offset, within the content,
on a line end or past the end: its line is the number of line ends before it; its column counts from
the beginning of that line, which is zero or one past the last line end before the offset; the
beginning of the line and the column give the offset back; and later offsets have later
positions. -/
theorem ofOffset_exact_and_ordered (offset : Nat) :
    let position : Nat → Position := fun i =>
      ofOffset ((lineBreaks newline content).map Int.ofNat) i
    let start := lineStart newline content (position offset).line
    (position offset).line = (content.take offset).count newline ∧
      LastLineBegins newline (content.take offset) start ∧
      (position offset).column = (offset : Int) - start ∧ 0 ≤ (position offset).column ∧
      (start : Int) + (position offset).column = offset ∧
      ∀ later : Nat, offset < later ↔ (position offset).Before (position later) := by
  intro position start
  have hposition : position offset = _ := ofOffset_lineBreaks newline content offset
  have hstart : start = lastLineStart (lineBreaks newline (content.take offset)) := by
    have hsplit := lineStart_append newline (Nat.le_refl ((content.take offset).count newline))
      (content.drop offset)
    rw [List.take_append_drop, lineStart_count] at hsplit
    rw [← hsplit]
    exact congrArg (fun p => lineStart newline content p.line) hposition
  have hbegins : LastLineBegins newline (content.take offset) start := by
    rw [hstart]
    exact lastLineBegins_lastLineStart newline _
  have hle : start ≤ offset := Nat.le_trans (hbegins.le_length newline) (List.length_take_le _ _)
  have hcolumn : (position offset).column = (offset : Int) - start := by
    rw [hposition, hstart]
  refine ⟨by rw [hposition], hbegins, hcolumn, ?_, ?_, fun later => ?_⟩
  · rw [hcolumn]
    omega
  · rw [hcolumn]
    omega
  · exact (ofOffset_before_iff newline content).symm

end Position

end EvmLocator
