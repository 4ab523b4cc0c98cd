import EvmLocator.Proofs.Text.Numeral

/-!
# Writing integers

An integer is written if it has no more digits than a literal may have.  The digits are those of its
magnitude, so the integers that are written are those below a power of ten on either side of zero,
and they are those whose numerals would be read.

A text that is put together from others is written if all of them are.  It fails in one way only, so
what there is to say of it is its condition: `WrittenIff` holds of a text and a condition, and is
shown of a longer text from its pieces.

## Main results

* `fits_iff`: which integers are written.
* `exists_write_iff_parse?`: an integer is written exactly if its numeral would be read.
* `WrittenIff.bind`: the condition of a text is that of its pieces.
-/

namespace EvmLocator.Text

open IntegerLiteral

/-- Whether a text is written under a condition, and is too long to be written otherwise. -/
structure WrittenIff {α : Type} (p : Prop) (text : Except Unfit α) : Prop where
  written : p → ∃ shown, text = .ok shown
  refused : ¬ p → text = .error .numeralTooLong

namespace WrittenIff

variable {α β : Type} {p q : Prop} {text : Except Unfit α} {rest : α → Except Unfit β}

/-- What is a text already is written under no condition. -/
theorem ok (shown : α) : WrittenIff True (.ok shown) where
  written := fun _ => ⟨shown, rfl⟩
  refused := fun h => absurd trivial h

theorem congr (h : p ↔ q) (htext : WrittenIff p text) : WrittenIff q text where
  written := fun hq => htext.written (h.mpr hq)
  refused := fun hq => htext.refused fun hp => hq (h.mp hp)

/-- A text that is put together from two is written if both are. -/
theorem bind (htext : WrittenIff p text) (hrest : ∀ shown, WrittenIff q (rest shown)) :
    WrittenIff (p ∧ q) (text >>= rest) where
  written := by
    rintro ⟨hp, hq⟩
    obtain ⟨shown, rfl⟩ := htext.written hp
    exact (hrest shown).written hq
  refused := by
    intro h
    by_cases hp : p
    · obtain ⟨shown, rfl⟩ := htext.written hp
      exact (hrest shown).refused fun hq => h ⟨hp, hq⟩
    · rw [htext.refused hp]
      rfl

/-- What is done with a text that is written adds no condition. -/
theorem bind_ok (htext : WrittenIff p text) (f : α → β) :
    WrittenIff p (text >>= fun shown => .ok (f shown)) :=
  (htext.bind fun shown => ok (f shown)).congr (and_iff_left trivial)

theorem eq_error_iff (htext : WrittenIff p text) {u : Unfit} :
    text = .error u ↔ ¬ p ∧ u = .numeralTooLong := by
  by_cases hp : p
  · obtain ⟨shown, rfl⟩ := htext.written hp
    simp [hp]
  · rw [htext.refused hp]
    simp [hp, eq_comm]

theorem exists_ok_iff (htext : WrittenIff p text) : (∃ shown, text = .ok shown) ↔ p := by
  by_cases hp : p
  · exact iff_of_true (htext.written hp) hp
  · rw [htext.refused hp]
    simp [hp]

end WrittenIff

namespace IntegerLiteral

variable {n : Int}

/-- The integers that are written are those below a power of ten. -/
theorem fits_iff : Fits n ↔ n.natAbs < 10 ^ digitLimit :=
  Nat.length_toDigits_le_iff (by decide) (by decide)

theorem not_fits_iff : ¬ Fits n ↔ 10 ^ digitLimit ≤ n.natAbs := by
  rw [fits_iff, Nat.not_lt]

theorem writtenIff_write (n : Int) : WrittenIff (Fits n) (write n) where
  written := fun h => ⟨toString n, if_pos h⟩
  refused := fun h => if_neg h

/-- **An integer is written exactly if its numeral would be read.** -/
theorem exists_write_iff_parse? :
    (∃ shown, write n = .ok shown) ↔ parse? (toString n).toList = some n := by
  rw [(writtenIff_write n).exists_ok_iff, parse?_of_isNumeral (isNumeral_toString n),
    digitCount_toString]
  show _ ↔ (if Fits n then some n else none) = some n
  split
  · next h => simp [h]
  · next h => simp [h]

end IntegerLiteral

end EvmLocator.Text
