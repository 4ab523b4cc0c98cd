import EvmLocator.Slice

/-!
# Masking a code

Before two codes are compared, the places where they may differ are overwritten by zeros in both.
`zeroRegion` overwrites one place and leaves alone a code that ends before the place does.

The code of a contract that was not linked holds placeholders: windows of forty characters that
begin with two underscores.  `windows` finds them one at a time, overwriting each before it looks
for the next, and fails at a window that the code cuts short.  Each round overwrites at least two
underscores and writes none, which bounds the search.

## Main results

* `zeroRegion_of_nat`: the three parts of a code around a masked place.
* `length_zeroRegion_of_nat`: masking keeps the length of a code.
* `windows_of_none`, `windows_of_some`: one round of the search.
-/

namespace EvmLocator.Bytecode

/-- A code with the `length` characters from `pos` on overwritten by zeros, if it reaches that
far.  A place may begin below zero and be longer than the code, and then the code grows: texts are
taken to be of any size, so there are that many zeros even where no memory would hold them. -/
def zeroRegion (code : List Char) (pos length : Int) : List Char :=
  if (code.length : Int) < pos + length then code
  else Slice.upTo code pos ++ List.replicate length.toNat '0' ++ Slice.onward code (pos + length)

theorem zeroRegion_of_nat (code : List Char) (pos length : Nat) :
    zeroRegion code pos length =
      if code.length < pos + length then code
      else code.take pos ++ List.replicate length '0' ++ code.drop (pos + length) := by
  unfold zeroRegion
  by_cases h : code.length < pos + length
  · rw [if_pos (by omega), if_pos h]
  · rw [if_neg (by omega), if_neg h]
    have hp : Slice.position code.length (pos : Int) = pos := by
      rw [Slice.position_of_nonneg (by omega)]
      omega
    have hq : Slice.position code.length ((pos : Int) + (length : Int)) = pos + length := by
      rw [Slice.position_of_nonneg (by omega)]
      omega
    simp [Slice.upTo, Slice.onward, hp, hq]

theorem length_zeroRegion_of_nat (code : List Char) (pos length : Nat) :
    (zeroRegion code pos length).length = code.length := by
  rw [zeroRegion_of_nat]
  split
  · rfl
  · simp
    omega

/-! ## Placeholders -/

/-- How long the window of a placeholder is. -/
def placeholderLength : Nat := 40

/-- Where the first two adjacent underscores of a code stand. -/
def findPlaceholder : List Char → Option Nat
  | [] => none
  | c :: rest =>
    if c = '_' ∧ rest.head? = some '_' then some 0
    else (findPlaceholder rest).map fun n => n + 1

theorem drop_of_findPlaceholder {code : List Char} {pos : Nat}
    (h : findPlaceholder code = some pos) : ∃ rest, code.drop pos = '_' :: '_' :: rest := by
  induction code generalizing pos with
  | nil => simp [findPlaceholder] at h
  | cons c rest ih =>
      simp only [findPlaceholder] at h
      split at h
      · next hc =>
          obtain ⟨rfl, hr⟩ := hc
          cases rest with
          | nil => simp at hr
          | cons d rest =>
              simp only [List.head?_cons, Option.some.injEq] at hr
              simp only [Option.some.injEq] at h
              exact ⟨rest, by rw [← h, hr]; rfl⟩
      · obtain ⟨n, hn, rfl⟩ := Option.map_eq_some_iff.mp h
        obtain ⟨tail, ht⟩ := ih hn
        exact ⟨tail, by simpa using ht⟩

theorem count_zeroRegion_lt {code : List Char} {pos : Nat}
    (h : findPlaceholder code = some pos) (hlen : ¬ code.length < pos + placeholderLength) :
    (zeroRegion code pos placeholderLength).count '_' < code.count '_' := by
  obtain ⟨rest, hrest⟩ := drop_of_findPlaceholder h
  rw [zeroRegion_of_nat, if_neg hlen]
  have hsplit : code.count '_' =
      (code.take pos).count '_' +
        (((code.drop pos).take placeholderLength).count '_' +
          (code.drop (pos + placeholderLength)).count '_') := by
    rw [← List.drop_drop, ← List.count_append, List.take_append_drop, ← List.count_append,
      List.take_append_drop]
  have hwindow : 0 < ((code.drop pos).take placeholderLength).count '_' := by
    rw [hrest]
    exact List.count_pos_iff.mpr (by simp [placeholderLength])
  have hzeros : (List.replicate placeholderLength '0').count '_' = 0 := by decide
  simp only [List.count_append, hzeros]
  omega

/-- Where the placeholder windows of a code begin, in the order in which they are found; or the
place of a window that the code cuts short. -/
def windows (code : List Char) : Except Nat (List Nat) :=
  match _h : findPlaceholder code with
  | none => .ok []
  | some pos =>
    if _hlen : code.length < pos + placeholderLength then .error pos
    else match windows (zeroRegion code pos placeholderLength) with
      | .ok rest => .ok (pos :: rest)
      | .error cut => .error cut
termination_by code.count '_'
decreasing_by exact count_zeroRegion_lt _h _hlen

theorem windows_of_none {code : List Char} (h : findPlaceholder code = none) :
    windows code = .ok [] := by
  rw [windows]
  split
  · rfl
  · simp_all

theorem windows_of_some {code : List Char} {pos : Nat} (h : findPlaceholder code = some pos) :
    windows code =
      if code.length < pos + placeholderLength then .error pos
      else match windows (zeroRegion code pos placeholderLength) with
        | .ok rest => .ok (pos :: rest)
        | .error cut => .error cut := by
  rw [windows]
  split
  · simp_all
  · next p hp =>
      obtain rfl : pos = p := by simpa [h] using hp
      split <;> rfl

/-- A code with the placeholder windows at the places `ws` overwritten. -/
def maskWindows (ws : List Nat) (code : List Char) : List Char :=
  ws.foldl (fun (c : List Char) (pos : Nat) => zeroRegion c pos placeholderLength) code

end EvmLocator.Bytecode
