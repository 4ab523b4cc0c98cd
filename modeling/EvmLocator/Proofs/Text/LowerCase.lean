import EvmLocator.Text.LowerCase

/-!
# Texts that are in lower case already

The lower case of a text works character by character except at the capital sigma, whose image
depends on its neighbours.  That exception does not reach the questions that the comparison of
codes asks of it: which texts the mapping leaves alone, whether its results are among them, and
which characters it can bring in.

A text is left alone exactly when each of its characters is.  One direction needs a count: every
image holds at least one character, so a text of the same length has an image of one character in
each place.

## Main results

* `lower_eq_self_iff`: the texts that are in lower case.
* `lower_lower`: the lower case of a text is one of them.
* `lower_eq_map`: texts that are lowered character by character.
* `newline_mem_of_mem_lower`: the mapping writes no line end.
-/

namespace EvmLocator.Text

/-- Whether a character stays as it is in any text. -/
def IsSmall (c : Char) : Prop :=
  c ≠ 'Σ' ∧ lowerChar c = [c]

instance (c : Char) : Decidable (IsSmall c) := by
  unfold IsSmall
  infer_instance

/-- The image of a character in its place. -/
def imageAt (afterCased : Bool) (c : Char) (rest : List Char) : List Char :=
  if c = 'Σ' then [if afterCased && !startsCased rest then 'ς' else 'σ'] else lowerChar c

/-- What a character passes on to the text after it. -/
def casedAfter (afterCased : Bool) (c : Char) : Bool :=
  if isCaseIgnorable c then afterCased else isCased c

theorem lowerFrom_cons (b : Bool) (c : Char) (rest : List Char) :
    lowerFrom b (c :: rest) = imageAt b c rest ++ lowerFrom (casedAfter b c) rest := rfl

theorem imageAt_of_isSmall {c : Char} (h : IsSmall c) (b : Bool) (rest : List Char) :
    imageAt b c rest = [c] := by
  rw [imageAt, if_neg h.1, h.2]

/-- Small characters stay, and what follows them is lowered on its own. -/
theorem lowerFrom_append_of_isSmall (s : List Char) (h : ∀ c ∈ s, IsSmall c) (b : Bool)
    (rest : List Char) : ∃ b', lowerFrom b (s ++ rest) = s ++ lowerFrom b' rest := by
  induction s generalizing b with
  | nil => exact ⟨b, rfl⟩
  | cons c s ih =>
      obtain ⟨b', hb'⟩ := ih (fun d hd => h d (by simp [hd])) (casedAfter b c)
      refine ⟨b', ?_⟩
      rw [List.cons_append, lowerFrom_cons, imageAt_of_isSmall (h c (by simp)), hb']
      rfl

theorem lower_of_isSmall {s : List Char} (h : ∀ c ∈ s, IsSmall c) : lower s = s := by
  obtain ⟨b, hb⟩ := lowerFrom_append_of_isSmall s h false []
  rw [List.append_nil] at hb
  rw [lower, hb, lowerFrom, List.append_nil]

/-! ## The images of single characters -/

theorem length_lowerChar_pos (c : Char) : 0 < (lowerChar c).length := by
  unfold lowerChar
  split
  · simp
  · split
    · simp
    · split <;> simp

theorem length_imageAt_pos (b : Bool) (c : Char) (rest : List Char) :
    0 < (imageAt b c rest).length := by
  unfold imageAt
  split
  · simp
  · exact length_lowerChar_pos c

theorem length_le_length_lowerFrom (b : Bool) (s : List Char) :
    s.length ≤ (lowerFrom b s).length := by
  induction s generalizing b with
  | nil => simp
  | cons c rest ih =>
      have hc := length_imageAt_pos b c rest
      have hrest := ih (casedAfter b c)
      rw [lowerFrom_cons, List.length_append, List.length_cons]
      omega

/-- A character whose image in some place is itself is small: the capital sigma never is. -/
theorem isSmall_of_imageAt {b : Bool} {c : Char} {rest : List Char}
    (h : imageAt b c rest = [c]) : IsSmall c := by
  unfold imageAt at h
  split at h
  · next hc =>
      subst hc
      split at h <;> simp at h
  · next hc => exact ⟨hc, h⟩

private theorem isSmall_of_lowerFrom_eq {b : Bool} {s : List Char} (h : lowerFrom b s = s) :
    ∀ c ∈ s, IsSmall c := by
  induction s generalizing b with
  | nil => simp
  | cons c rest ih =>
      rw [lowerFrom_cons] at h
      -- The image of the rest is no shorter than the rest, so the image of `c` has one character.
      have hpos := length_imageAt_pos b c rest
      have hrest := length_le_length_lowerFrom (casedAfter b c) rest
      have hlen := congrArg List.length h
      rw [List.length_append, List.length_cons] at hlen
      have himage : (imageAt b c rest).length = [c].length := by
        rw [List.length_singleton]
        omega
      obtain ⟨hc, htail⟩ := List.append_inj (h : _ = [c] ++ rest) himage
      intro d hd
      rcases List.mem_cons.mp hd with rfl | hd
      · exact isSmall_of_imageAt hc
      · exact ih htail d hd

/-- A text is in lower case exactly when all its characters are small. -/
theorem lower_eq_self_iff {s : List Char} : lower s = s ↔ ∀ c ∈ s, IsSmall c :=
  ⟨isSmall_of_lowerFrom_eq, lower_of_isSmall⟩

/-! ## Small forms stay

That no small form of the table is one of its capital letters is a question about two sets of code
points.  As bit patterns they are disjoint if one operation says so. -/

/-- The code points `first`, `first + stride` and so on, `count` of them, as a set of bits. -/
def bitsOf (first stride : Nat) : Nat → Nat
  | 0 => 0
  | k + 1 => bitsOf first stride k ||| 1 <<< (first + k * stride)

theorem testBit_bitsOf {first stride count n : Nat} :
    (bitsOf first stride count).testBit n = true ↔ ∃ k < count, n = first + k * stride := by
  induction count with
  | zero => simp [bitsOf]
  | succ count ih =>
      rw [bitsOf, Nat.testBit_or, Bool.or_eq_true, ih, Nat.one_shiftLeft, Nat.testBit_two_pow,
        decide_eq_true_eq]
      constructor
      · rintro (⟨k, hk, rfl⟩ | rfl)
        · exact ⟨k, by omega, rfl⟩
        · exact ⟨count, by omega, rfl⟩
      · rintro ⟨k, hk, rfl⟩
        rcases Nat.lt_succ_iff_lt_or_eq.mp hk with hlt | rfl
        · exact Or.inl ⟨k, hlt, rfl⟩
        · exact Or.inr rfl

/-- The number of capital letters of a row. -/
def CaseRow.count (r : CaseRow) : Nat :=
  (r.last - r.first) / r.stride + 1

/-- The code points of rows, which begin where `start` says, as a set of bits. -/
def bitsOfRows (start : CaseRow → Nat) (rows : List CaseRow) : Nat :=
  rows.foldr (fun r bits => bitsOf (start r) r.stride r.count ||| bits) 0

theorem testBit_bitsOfRows {start : CaseRow → Nat} {rows : List CaseRow} {n : Nat} :
    (bitsOfRows start rows).testBit n = true ↔
      ∃ r ∈ rows, ∃ k < r.count, n = start r + k * r.stride := by
  induction rows with
  | nil => simp [bitsOfRows]
  | cons r rows ih =>
      rw [bitsOfRows, List.foldr_cons, ← bitsOfRows, Nat.testBit_or, Bool.or_eq_true,
        testBit_bitsOf, ih]
      simp only [List.mem_cons, exists_eq_or_imp]

private theorem disjoint_bits :
    bitsOfRows CaseRow.first capitalRows &&&
      bitsOfRows (fun r => r.small r.first) capitalRows = 0 := by
  decide +kernel

namespace CaseRow

/-- Whether the small forms of a row are code points, and none of them is a letter whose image the
table does not give. -/
def Plain (r : CaseRow) : Prop :=
  97 ≤ (r.first : Int) + r.shift ∧
    (r.small r.last < 0xd800 ∨ 0xdfff < r.small r.first ∧ r.small r.last < 0x110000) ∧
    (r.small r.last < 0x130 ∨ 0x130 < r.small r.first) ∧
    (r.small r.last < 0x3a3 ∨ 0x3a3 < r.small r.first)

instance (r : CaseRow) : Decidable r.Plain := by
  unfold Plain
  infer_instance

theorem exists_of_covers {r : CaseRow} {n : Nat} (h : r.covers n = true) :
    ∃ k < r.count, n = r.first + k * r.stride := by
  simp only [covers, Bool.and_eq_true, decide_eq_true_eq, beq_iff_eq] at h
  obtain ⟨⟨hfirst, hlast⟩, hmod⟩ := h
  have hdiv := Nat.div_add_mod (n - r.first) r.stride
  rw [hmod, Nat.mul_comm] at hdiv
  refine ⟨(n - r.first) / r.stride, ?_, by omega⟩
  have hle : (n - r.first) / r.stride ≤ (r.last - r.first) / r.stride :=
    Nat.div_le_div_right (by omega)
  unfold count
  omega

theorem small_le_of_covers {r : CaseRow} {n : Nat} (h : r.covers n = true) :
    r.small r.first ≤ r.small n ∧ r.small n ≤ r.small r.last := by
  simp only [covers, Bool.and_eq_true, decide_eq_true_eq] at h
  unfold small
  omega

end CaseRow

private theorem plain_of_mem_capitalRows : ∀ r ∈ capitalRows, r.Plain := by
  decide +kernel

/-- No small form of the table is one of its capital letters. -/
theorem not_covers_small {r s : CaseRow} (hr : r ∈ capitalRows) (hs : s ∈ capitalRows) {n : Nat}
    (hn : r.covers n = true) : ¬ s.covers (r.small n) = true := by
  intro hcovers
  obtain ⟨k, hk, rfl⟩ := CaseRow.exists_of_covers hn
  obtain ⟨j, hj, hsmall⟩ := CaseRow.exists_of_covers hcovers
  have hcapital : (bitsOfRows CaseRow.first capitalRows).testBit
      (r.small (r.first + k * r.stride)) = true :=
    testBit_bitsOfRows.mpr ⟨s, hs, j, hj, hsmall⟩
  have himage : (bitsOfRows (fun r => r.small r.first) capitalRows).testBit
      (r.small (r.first + k * r.stride)) = true := by
    refine testBit_bitsOfRows.mpr ⟨r, hr, k, hk, ?_⟩
    have hlow := (plain_of_mem_capitalRows r hr).1
    simp only [CaseRow.small]
    omega
  have hboth := Nat.testBit_and (bitsOfRows CaseRow.first capitalRows)
    (bitsOfRows (fun r => r.small r.first) capitalRows) (r.small (r.first + k * r.stride))
  rw [disjoint_bits, hcapital, himage, Nat.zero_testBit] at hboth
  cases hboth

/-- What the mapping does to the characters of ASCII. -/
private theorem ascii_images : ∀ n < 0x80,
    IsSmall (Char.ofNat n).toLower ∧ (n < 65 ∨ 97 ≤ n → IsSmall (Char.ofNat n)) ∧
      ((Char.ofNat n).toLower = '\n' → n = 10) := by
  decide +kernel

theorem isSmall_toLower {c : Char} (h : c.toNat < 0x80) : IsSmall c.toLower := by
  have hsmall := (ascii_images c.toNat h).1
  rwa [Char.ofNat_toNat] at hsmall

/-- A character of ASCII that is no capital letter is small. -/
theorem isSmall_of_ascii {c : Char} (h : c.toNat < 0x80) (hc : c.toNat < 65 ∨ 97 ≤ c.toNat) :
    IsSmall c := by
  have hsmall := (ascii_images c.toNat h).2.1 hc
  rwa [Char.ofNat_toNat] at hsmall

theorem eq_newline_of_toLower {c : Char} (h : c.toNat < 0x80) (hc : c.toLower = '\n') :
    c = '\n' := by
  have hn := (ascii_images c.toNat h).2.2 (by rwa [Char.ofNat_toNat])
  rw [← Char.ofNat_toNat c, hn]

private theorem isSmall_images :
    IsSmall 'i' ∧ IsSmall '\u0307' ∧ IsSmall 'ς' ∧ IsSmall 'σ' := by
  decide +kernel

theorem le_small {r : CaseRow} (hr : r ∈ capitalRows) {n : Nat} (hn : r.covers n = true) :
    97 ≤ r.small n := by
  have hlow := (plain_of_mem_capitalRows r hr).1
  have hbounds := CaseRow.small_le_of_covers hn
  unfold CaseRow.small at hbounds ⊢
  omega

/-- The small forms of the table are code points of characters. -/
theorem toNat_ofNat_small {r : CaseRow} (hr : r ∈ capitalRows) {n : Nat}
    (hn : r.covers n = true) : (Char.ofNat (r.small n)).toNat = r.small n := by
  have hvalid := (plain_of_mem_capitalRows r hr).2.1
  have hbounds := CaseRow.small_le_of_covers hn
  have hchar : (r.small n).isValidChar := by
    unfold Nat.isValidChar
    omega
  rw [Char.ofNat, dif_pos hchar]
  rfl

theorem isSmall_small {r : CaseRow} (hr : r ∈ capitalRows) {n : Nat} (hn : r.covers n = true) :
    IsSmall (Char.ofNat (r.small n)) := by
  obtain ⟨-, -, hdotted, hsigma⟩ := plain_of_mem_capitalRows r hr
  have hbounds := CaseRow.small_le_of_covers hn
  have hlow := le_small hr hn
  have htoNat := toNat_ofNat_small hr hn
  rcases Nat.lt_or_ge (r.small n) 0x80 with hlt | hge
  · exact isSmall_of_ascii (by omega) (by omega)
  · refine ⟨fun h => ?_, ?_⟩
    · have hval : r.small n = 0x3a3 := by
        rw [← htoNat, h]
        rfl
      omega
    · have hnone : (capitalRows.find? fun row => row.covers (r.small n)) = none :=
        List.find?_eq_none.mpr fun s hs => not_covers_small hr hs hn
      rw [lowerChar, htoNat, if_neg (by omega), if_neg (by omega), hnone]

theorem isSmall_of_mem_lowerChar {c d : Char} (hc : c ≠ 'Σ') (h : d ∈ lowerChar c) :
    IsSmall d := by
  by_cases hascii : c.toNat < 0x80
  · rw [lowerChar, if_pos hascii, List.mem_singleton] at h
    rw [h]
    exact isSmall_toLower hascii
  · by_cases hdotted : c.toNat = 0x130
    · rw [lowerChar, if_neg hascii, if_pos hdotted] at h
      simp only [List.mem_cons, List.not_mem_nil, or_false] at h
      rcases h with rfl | rfl
      · exact isSmall_images.1
      · exact isSmall_images.2.1
    · cases hrow : capitalRows.find? fun row => row.covers c.toNat with
      | some row =>
          rw [lowerChar, if_neg hascii, if_neg hdotted, hrow, List.mem_singleton] at h
          have hcovers := List.find?_some hrow
          rw [h]
          exact isSmall_small (List.mem_of_find?_eq_some hrow) hcovers
      | none =>
          have hself : lowerChar c = [c] := by
            rw [lowerChar, if_neg hascii, if_neg hdotted, hrow]
          rw [hself, List.mem_singleton] at h
          rw [h]
          exact ⟨hc, hself⟩

theorem isSmall_of_mem_imageAt {b : Bool} {c d : Char} {rest : List Char}
    (h : d ∈ imageAt b c rest) : IsSmall d := by
  unfold imageAt at h
  split at h
  · rw [List.mem_singleton] at h
    rw [h]
    split
    · exact isSmall_images.2.2.1
    · exact isSmall_images.2.2.2
  · next hc => exact isSmall_of_mem_lowerChar hc h

theorem isSmall_of_mem_lower {s : List Char} : ∀ d ∈ lower s, IsSmall d := by
  unfold lower
  generalize false = b
  induction s generalizing b with
  | nil => simp [lowerFrom]
  | cons c rest ih =>
      intro d hd
      rw [lowerFrom_cons, List.mem_append] at hd
      rcases hd with hd | hd
      · exact isSmall_of_mem_imageAt hd
      · exact ih _ d hd

/-- The lower case of a text is in lower case. -/
theorem lower_lower (s : List Char) : lower (lower s) = lower s :=
  lower_of_isSmall isSmall_of_mem_lower

/-! ## Texts that are lowered character by character -/

/-- The small form of a character of ASCII; other characters as they are. -/
def asciiLower (c : Char) : Char :=
  if c.toNat < 0x80 then c.toLower else c

theorem asciiLower_of_isSmall {c : Char} (h : IsSmall c) : asciiLower c = c := by
  unfold asciiLower
  split
  · next hascii =>
      have himage := h.2
      rw [lowerChar, if_pos hascii] at himage
      exact List.singleton_inj.mp himage
  · rfl

theorem imageAt_eq_asciiLower {c : Char} (h : c.toNat < 0x80 ∨ IsSmall c) (b : Bool)
    (rest : List Char) : imageAt b c rest = [asciiLower c] := by
  rcases h with hascii | hsmall
  · have hsigma : c ≠ 'Σ' := by
      rintro rfl
      exact absurd hascii (by decide)
    rw [imageAt, if_neg hsigma, lowerChar, if_pos hascii, asciiLower, if_pos hascii]
  · rw [imageAt_of_isSmall hsmall, asciiLower_of_isSmall hsmall]

/-- A text of ASCII and of characters that are small already is lowered character by character. -/
theorem lower_eq_map {s : List Char} (h : ∀ c ∈ s, c.toNat < 0x80 ∨ IsSmall c) :
    lower s = s.map asciiLower := by
  unfold lower
  generalize false = b
  induction s generalizing b with
  | nil => rfl
  | cons c rest ih =>
      rw [lowerFrom_cons, imageAt_eq_asciiLower (h c (by simp)),
        ih (fun d hd => h d (by simp [hd]))]
      rfl

/-! ## What the mapping can bring in -/

/-- A character other than the line end has no line end in its image. -/
theorem newline_notMem_lowerChar {c : Char} (hc : c ≠ '\n') : '\n' ∉ lowerChar c := by
  unfold lowerChar
  split
  · next hascii =>
      rw [List.mem_singleton]
      exact fun h => hc (eq_newline_of_toLower hascii h.symm)
  · split
    · decide
    · split
      · next row hrow =>
          have hmem := List.mem_of_find?_eq_some hrow
          have hcovers := List.find?_some hrow
          have hlow := le_small hmem hcovers
          rw [List.mem_singleton]
          intro h
          have hval : row.small c.toNat = 10 := by
            rw [← toNat_ofNat_small hmem hcovers, ← h]
            rfl
          omega
      · rw [List.mem_singleton]
        exact fun h => hc h.symm

/-- The mapping writes no line end that the text did not have. -/
theorem newline_mem_of_mem_lower {s : List Char} (h : '\n' ∈ lower s) : '\n' ∈ s := by
  unfold lower at h
  generalize false = b at h
  induction s generalizing b with
  | nil => simp [lowerFrom] at h
  | cons c rest ih =>
      rw [lowerFrom_cons, List.mem_append] at h
      rcases h with h | h
      · by_cases hc : c = '\n'
        · simp [hc]
        · exfalso
          unfold imageAt at h
          split at h
          · split at h <;> simp at h
          · exact newline_notMem_lowerChar hc h
      · exact List.mem_cons_of_mem c (ih _ h)

end EvmLocator.Text
