import EvmLocator.Text.IntegerLiteral
import Mathlib.Algebra.Group.Nat.Defs

/-!
# Decimal numerals

A decimal numeral is a run of the digits `0` to `9`, with a minus sign before it if need be.  Zeros
may stand in front.  The grammar of integer literals is wider, and it is narrower in one respect: a
literal has no more digits than the limit.  So a numeral is read as the number that it spells if its
digits are within the limit, and is not read at all otherwise.

## Main results

* `IsNumeral.unique`, `isNumeral_toString`: a text spells one number at most, and the text of a
  number spells it.
* `IntegerLiteral.digits?_of_digits`: the digits of a run.
* `IntegerLiteral.parse?_of_isNumeral`: what a numeral is read as, and when it is not.
-/

namespace EvmLocator.Text

/-- The number of digits in a text. -/
def digitCount (text : List Char) : Nat :=
  text.countP Char.isDigit

/-- Whether a text spells a number in decimal digits. -/
inductive IsNumeral : Int → List Char → Prop
  | plain {digits : List Char} (nonempty : digits ≠ []) (all : ∀ c ∈ digits, c.isDigit = true) :
      IsNumeral (Nat.ofDigitChars 10 digits 0) digits
  | negative {digits : List Char} (nonempty : digits ≠ []) (all : ∀ c ∈ digits, c.isDigit = true) :
      IsNumeral (-(Nat.ofDigitChars 10 digits 0 : Int)) ('-' :: digits)

/-! ## Characters -/

theorem toNat_of_isDigit {c : Char} (h : c.isDigit = true) : 48 ≤ c.toNat ∧ c.toNat ≤ 57 := by
  simp only [Char.isDigit, Bool.and_eq_true, decide_eq_true_eq] at h
  exact ⟨UInt32.le_iff_toNat_le.mp h.1, UInt32.le_iff_toNat_le.mp h.2⟩

theorem ne_of_isDigit {c d : Char} (h : c.isDigit = true) (hd : d.isDigit = false) : c ≠ d := by
  rintro rfl
  rw [hd] at h
  cases h

theorem decimalDigit?_of_isDigit {c : Char} (h : c.isDigit = true) :
    decimalDigit? c = some (c.toNat - '0'.toNat) := by
  have hrange := toNat_of_isDigit h
  have hfound : decimalZeros.find? (fun base => base ≤ c.toNat && c.toNat ≤ base + 9) =
      some 0x30 := by
    rw [decimalZeros, List.find?_cons_of_pos]
    simp only [Bool.and_eq_true, decide_eq_true_eq]
    omega
  simp only [decimalDigit?, hfound]
  rfl

theorem isBlank_of_isDigit {c : Char} (h : c.isDigit = true) : isBlank c = false := by
  have hrange := toNat_of_isDigit h
  simp only [isBlank, Bool.or_eq_false_iff, Bool.and_eq_false_iff, decide_eq_false_iff_not,
    beq_eq_false_iff_ne]
  omega

/-! ## Runs of digits -/

namespace IntegerLiteral

theorem digits?_of_digits {text : List Char} (hne : text ≠ [])
    (h : ∀ c ∈ text, c.isDigit = true) :
    digits? text = some (text.map fun c => c.toNat - '0'.toNat) := by
  induction text with
  | nil => exact absurd rfl hne
  | cons c rest ih =>
      have hc := decimalDigit?_of_isDigit (h c List.mem_cons_self)
      cases rest with
      | nil => simp [digits?, hc]
      | cons d rest =>
          have hrest : ∀ x ∈ d :: rest, x.isDigit = true :=
            fun x hx => h x (List.mem_cons_of_mem _ hx)
          have hd : d ≠ '_' := ne_of_isDigit (hrest d List.mem_cons_self) (by decide)
          rw [digits?, hc, ih (List.cons_ne_nil d rest) hrest]
          · rfl
          · exact List.cons_ne_nil d rest
          · exact fun _ heq => hd (List.cons.inj heq).1

theorem value_map (text : List Char) :
    value (text.map fun c => c.toNat - '0'.toNat) = Nat.ofDigitChars 10 text 0 := by
  rw [value, List.foldl_map, Nat.ofDigitChars_eq_foldl]

theorem magnitude?_of_digits {text : List Char} (hne : text ≠ [])
    (h : ∀ c ∈ text, c.isDigit = true) :
    magnitude? text =
      if text.length ≤ digitLimit then some (Nat.ofDigitChars 10 text 0) else none := by
  rw [magnitude?, digits?_of_digits hne h]
  show (if (text.map _).length ≤ digitLimit then some (value (text.map _)) else none) = _
  rw [List.length_map, value_map]

theorem signed?_of_digits {text : List Char} (hne : text ≠ [])
    (h : ∀ c ∈ text, c.isDigit = true) :
    signed? text = (magnitude? text).map fun n => (n : Int) := by
  cases text with
  | nil => exact absurd rfl hne
  | cons c rest =>
      have hc := h c List.mem_cons_self
      rw [signed?]
      · exact fun _ heq => ne_of_isDigit hc (by decide) (List.cons.inj heq).1
      · exact fun _ heq => ne_of_isDigit hc (by decide) (List.cons.inj heq).1

end IntegerLiteral

/-! ## Numerals -/

theorem trimBlanks_of_forall {text : List Char} (h : ∀ c ∈ text, isBlank c = false) :
    trimBlanks text = text := by
  have hfront : ∀ s : List Char, (∀ c ∈ s, isBlank c = false) → s.dropWhile isBlank = s := by
    intro s hs
    cases s with
    | nil => rfl
    | cons c rest => exact List.dropWhile_cons_of_neg (by simp [hs c List.mem_cons_self])
  have hback : ∀ c ∈ text.reverse, isBlank c = false :=
    fun c hc => h c (List.mem_reverse.mp hc)
  rw [trimBlanks, hfront text h, hfront text.reverse hback, List.reverse_reverse]

theorem digitCount_of_digits {text : List Char} (h : ∀ c ∈ text, c.isDigit = true) :
    digitCount text = text.length :=
  List.countP_eq_length.mpr h

namespace IsNumeral

variable {n : Int} {text : List Char}

theorem of_digits {value : Nat} (nonempty : text ≠ []) (all : ∀ c ∈ text, c.isDigit = true)
    (hvalue : Nat.ofDigitChars 10 text 0 = value) : IsNumeral value text :=
  hvalue ▸ plain nonempty all

theorem of_digit {c : Char} {value : Nat} (h : c.isDigit = true)
    (hvalue : c.toNat - '0'.toNat = value) : IsNumeral value [c] := by
  apply of_digits (List.cons_ne_nil _ _) (List.forall_mem_singleton.mpr h)
  rw [Nat.ofDigitChars_cons, Nat.ofDigitChars_nil, Nat.mul_zero, Nat.zero_add, hvalue]

theorem of_minus_digits {value : Nat} (nonempty : text ≠ []) (all : ∀ c ∈ text, c.isDigit = true)
    (hvalue : Nat.ofDigitChars 10 text 0 = value) : IsNumeral (-(value : Int)) ('-' :: text) :=
  hvalue ▸ negative nonempty all

theorem ne_nil (h : IsNumeral n text) : text ≠ [] := by
  cases h with
  | plain nonempty => exact nonempty
  | negative => exact List.cons_ne_nil _ _

/-- A numeral has no character but its digits and the minus sign. -/
theorem isDigit_or_eq (h : IsNumeral n text) {c : Char} (hc : c ∈ text) :
    c.isDigit = true ∨ c = '-' := by
  cases h with
  | plain nonempty all => exact Or.inl (all c hc)
  | negative nonempty all =>
      rcases List.mem_cons.mp hc with rfl | hc
      · exact Or.inr rfl
      · exact Or.inl (all c hc)

theorem notMem (h : IsNumeral n text) {c : Char} (hdigit : c.isDigit = false) (hminus : c ≠ '-') :
    c ∉ text := by
  intro hc
  rcases h.isDigit_or_eq hc with hc | hc
  · rw [hdigit] at hc
    cases hc
  · exact hminus hc

theorem trimBlanks_eq (h : IsNumeral n text) : trimBlanks text = text := by
  apply trimBlanks_of_forall
  intro c hc
  rcases h.isDigit_or_eq hc with hc | rfl
  · exact isBlank_of_isDigit hc
  · rfl

theorem eq_of_minus (h : IsNumeral n ('-' :: text)) :
    n = -(Nat.ofDigitChars 10 text 0 : Int) := by
  cases h with
  | plain nonempty all => exact absurd (all '-' List.mem_cons_self) (by decide)
  | negative => rfl

/-- A text spells one number at most. -/
theorem unique {m : Int} (hm : IsNumeral m text) (hn : IsNumeral n text) : m = n := by
  cases hm with
  | plain nonempty all =>
      cases hn with
      | plain => rfl
      | negative => exact absurd (all '-' List.mem_cons_self) (by decide)
  | negative => exact hn.eq_of_minus.symm

end IsNumeral

theorem isDigit_of_mem_toDigits {k : Nat} : ∀ c ∈ Nat.toDigits 10 k, c.isDigit = true :=
  fun _ => Nat.isDigit_of_mem_toDigits (by decide) (by decide)

/-- The numeral of a number is the digits of its magnitude, after a minus sign if need be. -/
theorem toList_toString (n : Int) :
    (toString n).toList =
      if 0 ≤ n then Nat.toDigits 10 n.natAbs else '-' :: Nat.toDigits 10 n.natAbs := by
  rw [Int.toString_eq_repr, Int.repr_eq_if]
  split
  · next hn =>
      have hmagnitude : n.toNat = n.natAbs := by omega
      rw [Nat.toList_repr, hmagnitude]
  · next hn =>
      have hmagnitude : (-n).toNat = n.natAbs := by omega
      rw [String.toList_append, Nat.toList_repr, hmagnitude]
      rfl

/-- A number is written as a numeral that spells it. -/
theorem isNumeral_toString (n : Int) : IsNumeral n (toString n).toList := by
  rw [toList_toString]
  split
  · next hn =>
      have hplain := IsNumeral.of_digits Nat.toDigits_ne_nil isDigit_of_mem_toDigits
        (Nat.ofDigitChars_ten_toDigits (n := n.natAbs))
      rwa [Int.natAbs_of_nonneg hn] at hplain
  · next hn =>
      have hminus := IsNumeral.of_minus_digits Nat.toDigits_ne_nil isDigit_of_mem_toDigits
        (Nat.ofDigitChars_ten_toDigits (n := n.natAbs))
      rwa [Int.ofNat_natAbs_of_nonpos (by omega), Int.neg_neg] at hminus

/-- The digits of a numeral are those of the magnitude. -/
theorem digitCount_toString (n : Int) :
    digitCount (toString n).toList = (Nat.toDigits 10 n.natAbs).length := by
  rw [toList_toString]
  split
  · exact digitCount_of_digits isDigit_of_mem_toDigits
  · rw [digitCount, List.countP_cons_of_neg (by decide)]
    exact digitCount_of_digits isDigit_of_mem_toDigits

/-! ## Runs of zeros -/

theorem isDigit_of_mem_zeros {k : Nat} {c : Char} (hc : c ∈ List.replicate k '0') :
    c.isDigit = true := by
  rw [List.eq_of_mem_replicate hc]
  rfl

section

variable {digits : List Char} (all : ∀ c ∈ digits, c.isDigit = true) (k : Nat)
include all

theorem isDigit_of_mem_zeros_append :
    ∀ c ∈ List.replicate k '0' ++ digits, c.isDigit = true :=
  List.forall_mem_append.mpr ⟨fun _ => isDigit_of_mem_zeros, all⟩

theorem digitCount_zeros_append :
    digitCount (List.replicate k '0' ++ digits) = k + digits.length := by
  rw [digitCount_of_digits (isDigit_of_mem_zeros_append all k), List.length_append,
    List.length_replicate]

/-- Zeros in front of a number leave it as it is. -/
theorem isNumeral_zeros_append (nonempty : digits ≠ []) :
    IsNumeral (Nat.ofDigitChars 10 digits 0 : Nat) (List.replicate k '0' ++ digits) := by
  apply IsNumeral.of_digits (List.append_ne_nil_of_right_ne_nil _ nonempty)
    (isDigit_of_mem_zeros_append all k)
  rw [Nat.ofDigitChars_append, Nat.ofDigitChars_replicate_zero, Nat.mul_zero]

end

theorem isDigit_of_mem_one_zeros (k : Nat) : ∀ c ∈ '1' :: List.replicate k '0', c.isDigit = true :=
  List.forall_mem_cons.mpr ⟨rfl, fun _ => isDigit_of_mem_zeros⟩

theorem digitCount_one_zeros (k : Nat) : digitCount ('1' :: List.replicate k '0') = k + 1 := by
  rw [digitCount_of_digits (isDigit_of_mem_one_zeros k), List.length_cons, List.length_replicate]

/-- A one and zeros spell a power of ten. -/
theorem isNumeral_ten_pow (k : Nat) :
    IsNumeral (10 ^ k : Nat) ('1' :: List.replicate k '0') := by
  apply IsNumeral.of_digits (List.cons_ne_nil _ _) (isDigit_of_mem_one_zeros k)
  rw [Nat.ofDigitChars_cons, Nat.ofDigitChars_replicate_zero]
  exact Nat.mul_one _

namespace IntegerLiteral

/-- **A numeral within the limit is read as its number**, and no other numeral is read at all. -/
theorem parse?_of_isNumeral {n : Int} {text : List Char} (h : IsNumeral n text) :
    parse? text = if digitCount text ≤ digitLimit then some n else none := by
  rw [parse?, h.trimBlanks_eq]
  cases h with
  | plain nonempty all =>
      rw [signed?_of_digits nonempty all, magnitude?_of_digits nonempty all,
        digitCount_of_digits all]
      split <;> rfl
  | @negative digits nonempty all =>
      have hcount : digitCount ('-' :: digits) = digits.length := by
        rw [digitCount, List.countP_cons_of_neg (by decide)]
        exact digitCount_of_digits all
      rw [signed?, magnitude?_of_digits nonempty all, hcount]
      split <;> rfl

end IntegerLiteral

end EvmLocator.Text
