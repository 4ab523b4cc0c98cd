import EvmLocator.Bytecode.Hex

/-!
# Spelling bytes

`Spells` relates a text to the bytes that its digits are worth, two digits to a byte.  A text is
refused exactly if it spells no bytes, whatever the reason that is given, and what is at a place
of the bytes depends on two places of the text.

## Main results

* `unhex_eq_ok_iff`: reading a text gives the bytes that it spells.
* `Spells.getElem?_eq`: texts that agree in the two digits of a byte agree in the byte.
-/

namespace EvmLocator.Bytecode

/-- A text of digits in pairs, and the bytes that the pairs are worth. -/
inductive Spells : List Char → List UInt8 → Prop where
  | nil : Spells [] []
  | cons {high low : Char} {h l : Nat} {rest : List Char} {bytes : List UInt8}
      (upper : digitValue? high = some h) (lower : digitValue? low = some l)
      (tail : Spells rest bytes) :
      Spells (high :: low :: rest) (UInt8.ofNat (16 * h + l) :: bytes)

/-! ## Reading a text -/

theorem toNat_le_of_digitValue? {c : Char} {n : Nat} (h : digitValue? c = some n) :
    0x30 ≤ c.toNat ∧ c.toNat ≤ 0x66 := by
  simp only [digitValue?] at h
  split at h
  · omega
  · split at h
    · omega
    · split at h
      · omega
      · cases h

theorem pairs?_eq_some_iff {s : List Char} {bytes : List UInt8} :
    pairs? s = some bytes ↔ Spells s bytes := by
  constructor
  · intro h
    induction s using pairs?.induct generalizing bytes with
    | case1 =>
        cases h
        exact .nil
    | case2 high low rest ih =>
        simp only [pairs?, bind, Option.bind_eq_some_iff] at h
        obtain ⟨a, ha, b, hb, tail, htail, h⟩ := h
        cases h
        exact .cons ha hb (ih htail)
    | case3 c => cases h
  · intro h
    induction h with
    | nil => rfl
    | cons upper lower tail ih =>
        rw [pairs?, upper, lower, ih]
        rfl

theorem Spells.length {s : List Char} {bytes : List UInt8} (h : Spells s bytes) :
    s.length = 2 * bytes.length := by
  induction h with
  | nil => rfl
  | cons upper lower tail ih =>
      simp only [List.length_cons]
      omega

theorem Spells.toNat_le {s : List Char} {bytes : List UInt8} (h : Spells s bytes) :
    ∀ c ∈ s, 0x30 ≤ c.toNat ∧ c.toNat ≤ 0x66 := by
  induction h with
  | nil => simp
  | cons upper lower tail ih =>
      intro c hc
      rcases List.mem_cons.mp hc with rfl | hc
      · exact toNat_le_of_digitValue? upper
      · rcases List.mem_cons.mp hc with rfl | hc
        · exact toNat_le_of_digitValue? lower
        · exact ih c hc

/-- Reading a text gives the bytes that it spells, and fails if it spells none. -/
theorem unhex_eq_ok_iff {s : List Char} {bytes : List UInt8} :
    unhex s = .ok bytes ↔ Spells s bytes := by
  rw [← pairs?_eq_some_iff]
  constructor
  · intro h
    unfold unhex at h
    split at h
    · cases h
    · split at h
      · cases h
      · split at h
        · next hpairs =>
            cases h
            exact hpairs
        · cases h
  · intro h
    have hspells := pairs?_eq_some_iff.mp h
    have hascii : ¬ (s.any fun c => 0x7f < c.toNat) = true := by
      intro hany
      obtain ⟨c, hc, hbig⟩ := List.any_eq_true.mp hany
      have hle := (hspells.toNat_le c hc).2
      have := of_decide_eq_true hbig
      omega
    have heven : ¬ s.length % 2 = 1 := by
      rw [hspells.length]
      omega
    rw [unhex, if_neg hascii, if_neg heven, h]

theorem Spells.newline_notMem {s : List Char} {bytes : List UInt8} (h : Spells s bytes) :
    '\n' ∉ s := by
  intro hmem
  have hge := (h.toNat_le '\n' hmem).1
  exact absurd hge (by decide)

/-! ## One byte -/

/-- The byte at a place is worth the two digits at the double of the place. -/
theorem Spells.getElem? {s : List Char} {bytes : List UInt8} (h : Spells s bytes) {k : Nat}
    {x : UInt8} (hx : bytes[k]? = some x) :
    ∃ high low a b, s[2 * k]? = some high ∧ s[2 * k + 1]? = some low ∧
      digitValue? high = some a ∧ digitValue? low = some b ∧ x = UInt8.ofNat (16 * a + b) := by
  induction h generalizing k with
  | nil => simp at hx
  | @cons high low a b rest bytes upper lower tail ih =>
      cases k with
      | zero =>
          rw [List.getElem?_cons_zero, Option.some.injEq] at hx
          exact ⟨high, low, a, b, rfl, rfl, upper, lower, hx.symm⟩
      | succ k =>
          rw [List.getElem?_cons_succ] at hx
          exact ih hx

/-- Texts that agree in the two digits of a byte agree in the byte. -/
theorem Spells.getElem?_eq {s t : List Char} {as bs : List UInt8} (hs : Spells s as)
    (ht : Spells t bs) {k : Nat} {x y : UInt8} (hx : as[k]? = some x) (hy : bs[k]? = some y)
    (hhigh : s[2 * k]? = t[2 * k]?) (hlow : s[2 * k + 1]? = t[2 * k + 1]?) : x = y := by
  obtain ⟨c, d, a, b, hc, hd, ha, hb, rfl⟩ := hs.getElem? hx
  obtain ⟨c', d', a', b', hc', hd', ha', hb', rfl⟩ := ht.getElem? hy
  obtain rfl : c = c' := Option.some.inj (by rw [← hc, ← hc', hhigh])
  obtain rfl : d = d' := Option.some.inj (by rw [← hd, ← hd', hlow])
  obtain rfl : a = a' := Option.some.inj (by rw [← ha, ← ha'])
  obtain rfl : b = b' := Option.some.inj (by rw [← hb, ← hb'])
  rfl

end EvmLocator.Bytecode
