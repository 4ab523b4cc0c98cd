import EvmLocator.Utf8

/-!
# Encoded text is read back

The bytes of a character drive the machine from between characters to between characters, and on
the way it completes that character and nothing else.  So it reads an encoded text character by
character, and never reports an ill-formed piece.

A character is encoded in one to four bytes, by the size of its code point.  The range that the
machine keeps for the second byte excludes what a shorter encoding could say, and what no character
is; a code point that is a character and too large for fewer bytes lies within it.

Every byte of a character other than the line end differs from the byte of a line end, since the
bytes of longer encodings are all above ASCII.

## Main results

* `run_encodeChar`, `run_encode`: the machine on the bytes of a character, and of a text.
* `decodeLossy_encode`, `decode?_encode`: an encoded text is read back, leniently and strictly.
* `decodeLossy_eq_nil_iff`: a lenient reader drops no bytes without a trace.
* `newline_mem_encodeChar_iff`: no other character holds the byte of a line end.
-/

namespace EvmLocator.Utf8

/-! ## Steps of the machine -/

theorem run_cons (state : State) (byte : UInt8) (rest : List UInt8) :
    run state (byte :: rest) = (step state byte).1 ++ run (step state byte).2 rest := by
  rw [run]

theorem toNat_ofNat_of_le {n : Nat} (h : n ≤ 0xff) : (UInt8.ofNat n).toNat = n := by
  rw [UInt8.toNat_ofNat']
  omega

section

variable {n low high value : Nat} (rest : List UInt8)

/-- The last byte that a character owes completes it. -/
theorem run_last (hlow : low ≤ n) (hhigh : n ≤ high) (hbyte : n ≤ 0xff) :
    run (.owing 0 low high value) (UInt8.ofNat n :: rest) =
      some (Char.ofNat (value * 0x40 + (n - 0x80))) :: run .start rest := by
  rw [run_cons]
  simp only [step, toNat_ofNat_of_le hbyte, if_pos (And.intro hlow hhigh), List.cons_append,
    List.nil_append]

/-- A byte within range leaves one byte fewer to follow. -/
theorem run_next {more : Nat} (hlow : low ≤ n) (hhigh : n ≤ high) (hbyte : n ≤ 0xff) :
    run (.owing (more + 1) low high value) (UInt8.ofNat n :: rest) =
      run (.owing more 0x80 0xbf (value * 0x40 + (n - 0x80))) rest := by
  rw [run_cons]
  simp only [step, toNat_ofNat_of_le hbyte, if_pos (And.intro hlow hhigh), List.nil_append]

theorem run_ascii (h : n < 0x80) :
    run .start (UInt8.ofNat n :: rest) = some (Char.ofNat n) :: run .start rest := by
  rw [run_cons]
  simp only [step, first, toNat_ofNat_of_le (show n ≤ 0xff by omega), if_pos h, List.cons_append,
    List.nil_append]

theorem run_lead_two (hlow : 0xc2 ≤ n) (hhigh : n ≤ 0xdf) :
    run .start (UInt8.ofNat n :: rest) = run (.owing 0 0x80 0xbf (n - 0xc0)) rest := by
  rw [run_cons]
  simp only [step, first, toNat_ofNat_of_le (show n ≤ 0xff by omega)]
  rw [if_neg (by omega), if_pos ⟨hlow, hhigh⟩, List.nil_append]

/-- The least second byte after the lead byte of three: a smaller one would say what two bytes
can. -/
def lowAfterThree (n : Nat) : Nat := if n = 0xe0 then 0xa0 else 0x80

/-- The greatest second byte after the lead byte of three: a greater one would say what no
character is. -/
def highAfterThree (n : Nat) : Nat := if n = 0xed then 0x9f else 0xbf

theorem run_lead_three (hlow : 0xe0 ≤ n) (hhigh : n ≤ 0xef) :
    run .start (UInt8.ofNat n :: rest) =
      run (.owing 1 (lowAfterThree n) (highAfterThree n) (n - 0xe0)) rest := by
  rw [run_cons]
  simp only [step, first, toNat_ofNat_of_le (show n ≤ 0xff by omega)]
  rw [if_neg (by omega), if_neg (by omega)]
  by_cases hfirst : n = 0xe0
  · simp [hfirst, lowAfterThree, highAfterThree]
  by_cases hsurrogate : n = 0xed
  · simp [hsurrogate, lowAfterThree, highAfterThree]
  · rw [if_neg hfirst, if_neg hsurrogate, if_pos (by omega), lowAfterThree, highAfterThree,
      if_neg hfirst, if_neg hsurrogate, List.nil_append]

/-- The least second byte after the lead byte of four. -/
def lowAfterFour (n : Nat) : Nat := if n = 0xf0 then 0x90 else 0x80

/-- The greatest second byte after the lead byte of four. -/
def highAfterFour (n : Nat) : Nat := if n = 0xf4 then 0x8f else 0xbf

theorem run_lead_four (hlow : 0xf0 ≤ n) (hhigh : n ≤ 0xf4) :
    run .start (UInt8.ofNat n :: rest) =
      run (.owing 2 (lowAfterFour n) (highAfterFour n) (n - 0xf0)) rest := by
  rw [run_cons]
  simp only [step, first, toNat_ofNat_of_le (show n ≤ 0xff by omega)]
  rw [if_neg (by omega), if_neg (by omega), if_neg (by omega), if_neg (by omega),
    if_neg (by omega)]
  by_cases hfirst : n = 0xf0
  · simp [hfirst, lowAfterFour, highAfterFour]
  by_cases hlast : n = 0xf4
  · simp [hlast, lowAfterFour, highAfterFour]
  · rw [if_neg hfirst, if_pos (by omega), lowAfterFour, highAfterFour, if_neg hfirst,
      if_neg hlast, List.nil_append]

end

/-! ## Characters and texts -/

/-- The bytes of a character, by the size of its code point. -/
inductive Encoding (n : Nat) : List UInt8 → Prop where
  | one (small : n ≤ 0x7f) : Encoding n [UInt8.ofNat n]
  | two (low : 0x7f < n) (high : n ≤ 0x7ff) :
      Encoding n [UInt8.ofNat (n / 64 + 0xc0), UInt8.ofNat (n % 64 + 0x80)]
  | three (low : 0x7ff < n) (high : n ≤ 0xffff) (character : n < 0xd800 ∨ 0xdfff < n) :
      Encoding n [UInt8.ofNat (n / 4096 + 0xe0), UInt8.ofNat (n / 64 % 64 + 0x80),
        UInt8.ofNat (n % 64 + 0x80)]
  | four (low : 0xffff < n) (high : n < 0x110000) :
      Encoding n [UInt8.ofNat (n / 262144 + 0xf0), UInt8.ofNat (n / 4096 % 64 + 0x80),
        UInt8.ofNat (n / 64 % 64 + 0x80), UInt8.ofNat (n % 64 + 0x80)]

theorem encoding_encodeChar (c : Char) : Encoding c.toNat (String.utf8EncodeChar c) := by
  have hvalid : c.toNat < 0xd800 ∨ 0xdfff < c.toNat ∧ c.toNat < 0x110000 := c.valid
  have hcode : c.val.toNat = c.toNat := rfl
  simp only [String.utf8EncodeChar, hcode]
  by_cases hone : c.toNat ≤ 0x7f
  · rw [if_pos hone]
    exact .one hone
  by_cases htwo : c.toNat ≤ 0x7ff
  · rw [if_neg hone, if_pos htwo, Nat.mod_eq_of_lt (show c.toNat / 64 < 32 by omega)]
    exact .two (by omega) htwo
  by_cases hthree : c.toNat ≤ 0xffff
  · rw [if_neg hone, if_neg htwo, if_pos hthree,
      Nat.mod_eq_of_lt (show c.toNat / 4096 < 16 by omega)]
    exact .three (by omega) hthree (by omega)
  · rw [if_neg hone, if_neg htwo, if_neg hthree,
      Nat.mod_eq_of_lt (show c.toNat / 262144 < 8 by omega)]
    exact .four (by omega) (by omega)

/-- The machine completes a code point from its bytes. -/
theorem Encoding.run_append {n : Nat} {bytes : List UInt8} (h : Encoding n bytes)
    (rest : List UInt8) : run .start (bytes ++ rest) = some (Char.ofNat n) :: run .start rest := by
  cases h with
  | one small => exact run_ascii rest (by omega)
  | two low high =>
      have hvalue : (n / 64 + 0xc0 - 0xc0) * 0x40 + (n % 64 + 0x80 - 0x80) = n := by omega
      simp only [List.cons_append, List.nil_append]
      rw [run_lead_two _ (by omega) (by omega), run_last _ (by omega) (by omega) (by omega),
        hvalue]
  | three low high character =>
      have hvalue : ((n / 4096 + 0xe0 - 0xe0) * 0x40 + (n / 64 % 64 + 0x80 - 0x80)) * 0x40 +
          (n % 64 + 0x80 - 0x80) = n := by omega
      have hlow : lowAfterThree (n / 4096 + 0xe0) ≤ n / 64 % 64 + 0x80 := by
        unfold lowAfterThree
        split <;> omega
      have hhigh : n / 64 % 64 + 0x80 ≤ highAfterThree (n / 4096 + 0xe0) := by
        unfold highAfterThree
        split <;> omega
      simp only [List.cons_append, List.nil_append]
      rw [run_lead_three _ (by omega) (by omega), run_next _ hlow hhigh (by omega),
        run_last _ (by omega) (by omega) (by omega), hvalue]
  | four low high =>
      have hvalue : (((n / 262144 + 0xf0 - 0xf0) * 0x40 + (n / 4096 % 64 + 0x80 - 0x80)) * 0x40 +
          (n / 64 % 64 + 0x80 - 0x80)) * 0x40 + (n % 64 + 0x80 - 0x80) = n := by omega
      have hlow : lowAfterFour (n / 262144 + 0xf0) ≤ n / 4096 % 64 + 0x80 := by
        unfold lowAfterFour
        split <;> omega
      have hhigh : n / 4096 % 64 + 0x80 ≤ highAfterFour (n / 262144 + 0xf0) := by
        unfold highAfterFour
        split <;> omega
      simp only [List.cons_append, List.nil_append]
      rw [run_lead_four _ (by omega) (by omega), run_next _ hlow hhigh (by omega),
        run_next _ (by omega) (by omega) (by omega), run_last _ (by omega) (by omega) (by omega),
        hvalue]

/-- The machine completes a character from its bytes. -/
theorem run_encodeChar (c : Char) (rest : List UInt8) :
    run .start (String.utf8EncodeChar c ++ rest) = some c :: run .start rest := by
  rw [(encoding_encodeChar c).run_append, Char.ofNat_toNat]

/-- The machine completes a text from its bytes. -/
theorem run_encode (s : List Char) (rest : List UInt8) :
    run .start (encode s ++ rest) = s.map some ++ run .start rest := by
  induction s with
  | nil => rfl
  | cons c s ih =>
      have hcons : encode (c :: s) = String.utf8EncodeChar c ++ encode s := List.flatMap_cons
      rw [hcons, List.append_assoc, run_encodeChar, ih]
      rfl

theorem run_start_encode (s : List Char) : run .start (encode s) = s.map some := by
  have h := run_encode s []
  rwa [List.append_nil, run, List.append_nil] at h

/-- An encoded text is read back leniently, and nothing is replaced. -/
theorem decodeLossy_encode (s : List Char) : decodeLossy (encode s) = s := by
  rw [decodeLossy, run_start_encode, List.map_map]
  exact List.map_id s

/-- An encoded text is read back strictly. -/
theorem decode?_encode (s : List Char) : decode? (encode s) = some s := by
  rw [decode?, run_start_encode]
  induction s with
  | nil => rfl
  | cons c s ih =>
      rw [List.map_cons, List.mapM_cons, ih]
      rfl

/-! ## Nothing is dropped -/

/-- A lead byte completes something, or leaves the machine inside a character. -/
theorem first_completes_or_owes (byte : UInt8) :
    (first byte).1 ≠ [] ∨ ∃ more low high value, (first byte).2 = .owing more low high value := by
  fun_cases first byte with
  | case1 => exact Or.inl (by simp)
  | case9 => exact Or.inl (by simp)
  | case2 | case3 | case4 | case5 | case6 | case7 | case8 => exact Or.inr ⟨_, _, _, _, rfl⟩

/-- Inside a character the machine reports something, whatever follows. -/
theorem run_owing_ne_nil (bytes : List UInt8) (more low high value : Nat) :
    run (.owing more low high value) bytes ≠ [] := by
  induction bytes generalizing more low high value with
  | nil => simp [run]
  | cons byte rest ih =>
      rw [run_cons]
      by_cases hrange : low ≤ byte.toNat ∧ byte.toNat ≤ high
      · cases more with
        | zero => simp [step, hrange]
        | succ more => simp [step, hrange, ih]
      · simp [step, hrange]

theorem run_start_ne_nil (byte : UInt8) (rest : List UInt8) : run .start (byte :: rest) ≠ [] := by
  rw [run_cons]
  show (first byte).1 ++ run (first byte).2 rest ≠ []
  rcases first_completes_or_owes byte with hout | ⟨more, low, high, value, hnext⟩
  · simp [hout]
  · simp [hnext, run_owing_ne_nil]

/-- Read leniently, only nothing gives nothing. -/
theorem decodeLossy_eq_nil_iff {bytes : List UInt8} : decodeLossy bytes = [] ↔ bytes = [] := by
  rw [decodeLossy, List.map_eq_nil_iff]
  cases bytes with
  | nil => simp [run]
  | cons byte rest => simp [run_start_ne_nil]

/-! ## Line ends -/

/-- The byte of a line end stands in no other character. -/
theorem newline_mem_encodeChar_iff (c : Char) : 0x0a ∈ String.utf8EncodeChar c ↔ c = '\n' := by
  have hbyte : ∀ n ≤ 0xff, (0x0a : UInt8) = UInt8.ofNat n ↔ n = 0x0a := by
    intro n hn
    rw [← UInt8.toNat_inj, toNat_ofNat_of_le hn]
    exact eq_comm
  have hcode : c = '\n' ↔ c.toNat = 0x0a := by
    rw [← Char.toNat_inj]
    rfl
  rw [hcode]
  have hencoding := encoding_encodeChar c
  generalize String.utf8EncodeChar c = bytes at hencoding
  cases hencoding with
  | one small => rw [List.mem_singleton, hbyte _ (by omega)]
  | two low high =>
      simp only [List.mem_cons, List.not_mem_nil, or_false]
      rw [hbyte _ (by omega), hbyte _ (by omega)]
      omega
  | three low high character =>
      simp only [List.mem_cons, List.not_mem_nil, or_false]
      rw [hbyte _ (by omega), hbyte _ (by omega), hbyte _ (by omega)]
      omega
  | four low high =>
      simp only [List.mem_cons, List.not_mem_nil, or_false]
      rw [hbyte _ (by omega), hbyte _ (by omega), hbyte _ (by omega), hbyte _ (by omega)]
      omega

end EvmLocator.Utf8
