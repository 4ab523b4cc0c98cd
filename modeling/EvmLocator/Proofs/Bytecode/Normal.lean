import EvmLocator.Bytecode.Metadata
import EvmLocator.Bytecode.Normal
import EvmLocator.Proofs.Text.LowerCase

/-!
# Codes in normal form

A code is in normal form if it begins with the mark and is in lower case.  The normal form of any
code is one of these, so a code that was brought into normal form once is not changed again.

## Main results

* `normalize_normalize`: the normal form of a code is in normal form.
* `newline_notMem_normalize`: bringing a code into normal form adds no line end.
* `normalize_mark_append`: text in lower case behind a mark is in normal form.
-/

namespace EvmLocator.Bytecode

theorem isSmall_of_mem_mark : ∀ c ∈ mark, Text.IsSmall c := by
  intro c hc
  simp only [mark, List.mem_cons, List.not_mem_nil, or_false] at hc
  rcases hc with rfl | rfl
  · exact Text.isSmall_of_ascii (by decide) (by decide)
  · exact Text.isSmall_of_ascii (by decide) (by decide)

/-- A code in lower case that begins with the mark is in normal form. -/
theorem normalize_of_isSmall {code : List Char} (hmark : mark <+: code)
    (h : ∀ c ∈ code, Text.IsSmall c) : normalize code = code := by
  simp only [normalize, Text.lower_of_isSmall h]
  rw [if_pos (List.isPrefixOf_iff_prefix.mpr hmark)]

theorem isSmall_of_mem_normalize {code : List Char} :
    ∀ c ∈ normalize code, Text.IsSmall c := by
  intro c hc
  simp only [normalize] at hc
  split at hc
  · exact Text.isSmall_of_mem_lower c hc
  · rcases List.mem_append.mp hc with hc | hc
    · exact isSmall_of_mem_mark c hc
    · exact Text.isSmall_of_mem_lower c hc

/-- The normal form of a code is in normal form. -/
theorem normalize_normalize (code : List Char) : normalize (normalize code) = normalize code :=
  normalize_of_isSmall (mark_prefix_normalize code) isSmall_of_mem_normalize

theorem newline_notMem_normalize {code : List Char} (h : '\n' ∉ code) :
    '\n' ∉ normalize code := by
  have hlower : '\n' ∉ Text.lower code := fun hmem => h (Text.newline_mem_of_mem_lower hmem)
  simp only [normalize]
  split
  · exact hlower
  · rw [List.mem_append, not_or]
    exact ⟨by decide, hlower⟩

/-- Text in lower case behind a mark is in normal form. -/
theorem normalize_mark_append {s : List Char} (h : Text.lower s = s) :
    normalize (mark ++ s) = mark ++ s := by
  apply normalize_of_isSmall (List.prefix_append _ _)
  rw [Text.lower_eq_self_iff] at h
  intro c hc
  rcases List.mem_append.mp hc with hc | hc
  · exact isSmall_of_mem_mark c hc
  · exact h c hc

/-! ## Hexadecimal text -/

/-- Whether every character of a text is a lower-case hexadecimal digit. -/
def IsHexText (s : List Char) : Prop :=
  ∀ c ∈ s, Piece.isHex c = true

theorem isSmall_of_isHex {c : Char} (h : Piece.isHex c = true) : Text.IsSmall c := by
  simp only [Piece.isHex, Bool.or_eq_true, Bool.and_eq_true, decide_eq_true_eq] at h
  rcases h with ⟨hlow, hhigh⟩ | ⟨hlow, hhigh⟩
  · have hle : c.toNat ≤ '9'.toNat := hhigh
    exact Text.isSmall_of_ascii (Nat.lt_of_le_of_lt hle (by decide))
      (Or.inl (Nat.lt_of_le_of_lt hle (by decide)))
  · have hge : 'a'.toNat ≤ c.toNat := hlow
    have hle : c.toNat ≤ 'f'.toNat := hhigh
    exact Text.isSmall_of_ascii (Nat.lt_of_le_of_lt hle (by decide))
      (Or.inr (Nat.le_trans (by decide) hge))

theorem lower_of_isHexText {s : List Char} (h : IsHexText s) : Text.lower s = s :=
  Text.lower_of_isSmall fun c hc => isSmall_of_isHex (h c hc)

theorem lower_append {s t : List Char} (hs : Text.lower s = s) (ht : IsHexText t) :
    Text.lower (s ++ t) = s ++ t := by
  rw [Text.lower_eq_self_iff] at hs ⊢
  intro c hc
  rcases List.mem_append.mp hc with hc | hc
  · exact hs c hc
  · exact isSmall_of_isHex (ht c hc)

theorem newline_notMem_of_isHexText {s : List Char} (h : IsHexText s) : '\n' ∉ s :=
  fun hmem => absurd (h _ hmem) (by decide)

end EvmLocator.Bytecode
