import EvmLocator.Proofs.Source.Position
import EvmLocator.Proofs.Utf8
import EvmLocator.Source.Content

/-!
# Offsets in bytes and places in a text

A source map counts bytes, and a reader counts characters and lines.  For a file that holds an
encoded text the two agree: the bytes between the offsets of two places of the text are the encoding
of what stands between them, so they are read back as that, and the line ends among the bytes before
an offset are those of the text before the place.

This rests on two facts about the encoding.  It is made character by character, so a text that is
cut between characters is encoded in pieces; and no character but the line end holds the byte of a
line end, so line ends are counted alike in both.

## Main results

* `count_encode`, `rtakeWhile_encode`: the lines of an encoded text.
* `between_encode`: the bytes between the offsets of two places.
* `excerpt_and_span_ofText`: what a file shows at a location that is given by places of its text.
-/

namespace EvmLocator

namespace Utf8

/-- The number of bytes of a text. -/
def size (s : List Char) : Nat := (encode s).length

theorem size_append (s t : List Char) : size (s ++ t) = size s + size t := by
  rw [size, encode_append, List.length_append, size, size]

theorem take_encode (s t : List Char) : (encode (s ++ t)).take (size s) = encode s := by
  rw [encode_append, size, List.take_left]

theorem drop_encode (s t : List Char) : (encode (s ++ t)).drop (size s) = encode t := by
  rw [encode_append, size, List.drop_left]

/-! ## Lines of an encoded text -/

theorem encode_newline : encode ['\n'] = [0x0a] := rfl

theorem not_newline_of_mem_encode {c : Char} (hc : c ≠ '\n') :
    ∀ b ∈ encode [c], (b == 0x0a) = false := by
  intro b hb
  have hmem : b ∈ String.utf8EncodeChar c := by
    rwa [encode, List.flatMap_singleton] at hb
  rw [beq_eq_false_iff_ne]
  rintro rfl
  exact hc ((newline_mem_encodeChar_iff c).mp hmem)

/-- An encoded text has the line ends of the text. -/
theorem count_encode (s : List Char) : (encode s).count 0x0a = s.count '\n' := by
  induction s with
  | nil => rfl
  | cons c s ih =>
      rw [← List.singleton_append, encode_append, List.count_append, List.count_append, ih]
      by_cases hc : c = '\n'
      · rw [hc, encode_newline]
        rfl
      · have hnone : (encode [c]).count 0x0a = 0 := by
          rw [List.count_eq_zero]
          intro hmem
          exact absurd (not_newline_of_mem_encode hc _ hmem) (by decide)
        rw [hnone, List.count_singleton, if_neg (by simpa using hc)]

/-- The last line of an encoded text is the last line of the text, encoded. -/
theorem rtakeWhile_encode (s : List Char) :
    (encode s).rtakeWhile (fun b => !(b == 0x0a)) =
      encode (s.rtakeWhile fun c => !(c == '\n')) := by
  induction s using List.reverseRecOn with
  | nil => rfl
  | append_singleton s c ih =>
      rw [encode_append, List.rtakeWhile_concat]
      by_cases hc : c = '\n'
      · rw [hc, encode_newline, List.rtakeWhile_concat]
        rfl
      · have hall : ∀ b ∈ (encode [c]).reverse, (!(b == 0x0a)) = true := by
          intro b hb
          rw [not_newline_of_mem_encode hc b (List.mem_reverse.mp hb)]
          rfl
        have hkept : (!(c == '\n')) = true := by simpa using hc
        rw [List.rtakeWhile, List.reverse_append, List.takeWhile_append_of_pos hall,
          List.reverse_append, List.reverse_reverse, if_pos hkept, encode_append, ← ih]
        rfl

end Utf8

/-! ## Two places of a text -/

namespace Source

open Utf8

/-- The position of a place in a text, given what stands before it. -/
def positionAfter (before : List Char) : Position :=
  { line := before.count '\n', column := size (before.rtakeWhile fun c => !(c == '\n')) }

/-- The bytes between the offsets of two places are the encoding of what stands between them. -/
theorem between_encode (before text after : List Char) :
    Slice.between (encode (before ++ text ++ after)) (size before) (size before + size text) =
      encode text := by
  have hstart : Slice.position (size (before ++ text ++ after)) (size before) = size before := by
    rw [Slice.position_of_nonneg (by omega), size_append, size_append]
    omega
  have hstop : Slice.position (size (before ++ text ++ after)) (size before + size text : Int) =
      size (before ++ text) := by
    rw [Slice.position_of_nonneg (by omega), size_append, size_append]
    omega
  rw [Slice.between]
  show (List.take (Slice.position (size _) _) _).drop (Slice.position (size _) _) = _
  rw [hstart, hstop, take_encode, drop_encode]

/-- The offset of a place is at the position of the place. -/
theorem ofOffset_breaks (before after : List Char) :
    Position.ofOffset ((ofText (before ++ after)).breaks.map Int.ofNat) (size before) =
      positionAfter before := by
  have hlast := lastLineStart_add_length 0x0a (encode before)
  rw [rtakeWhile_encode] at hlast
  rw [breaks, ofText, Position.ofOffset_lineBreaks, take_encode, count_encode, positionAfter,
    Position.mk.injEq]
  refine ⟨rfl, ?_⟩
  unfold size
  omega

/-- **A file shows what its text shows.**  For a location that is given by two places of a text, a
file with that text shows the characters between them, and nothing is replaced; it begins and ends
on the lines of the places, and the columns count the bytes from the beginnings of these lines. -/
theorem excerpt_and_span_ofText {t : List Char} {i j : Nat} (hij : i ≤ j) {l : Location}
    (hstart : l.start = some (size (t.take i) : Int))
    (hlength : l.length = some (size ((t.take j).drop i) : Int)) :
    (ofText t).excerpt l = (t.take j).drop i ∧
      decode? (Slice.between (ofText t).content (size (t.take i))
        (size (t.take i) + size ((t.take j).drop i))) = some ((t.take j).drop i) ∧
      (ofText t).span l =
        some { first := positionAfter (t.take i), last := positionAfter (t.take j) } := by
  have hjoin : t.take i ++ (t.take j).drop i = t.take j := by
    have htake : (t.take j).take i = t.take i := by
      rw [List.take_take, Nat.min_eq_left hij]
    rw [← htake, List.take_append_drop]
  have hbetween : Slice.between (ofText t).content (size (t.take i))
      (size (t.take i) + size ((t.take j).drop i)) = encode ((t.take j).drop i) := by
    have h := between_encode (t.take i) ((t.take j).drop i) (t.drop j)
    rwa [hjoin, List.take_append_drop] at h
  have hfirst := ofOffset_breaks (t.take i) (t.drop i)
  have hlast := ofOffset_breaks (t.take j) (t.drop j)
  rw [List.take_append_drop] at hfirst hlast
  rw [← hjoin, size_append, hjoin, Int.natCast_add] at hlast
  refine ⟨?_, ?_, ?_⟩
  · rw [excerpt, hstart, hlength]
    show decodeLossy (Slice.between (ofText t).content _ _) = _
    rw [hbetween, decodeLossy_encode]
  · rw [hbetween, decode?_encode]
  · rw [span, Span.ofLocation, hstart, hlength]
    simp only
    rw [if_pos ⟨Int.natCast_nonneg _, Int.natCast_nonneg _⟩, hfirst, hlast]

/-- Characters of two, one, four and three bytes, with a line end between them. -/
theorem excerpt_and_span_ofText_sample :
    (1 ≤ 3) ∧ size ("é\n😀€".toList.take 1) = 2 ∧ size (("é\n😀€".toList.take 3).drop 1) = 5 ∧
      (ofText "é\n😀€".toList).excerpt { start := some 2, length := some 5 } = "\n😀".toList ∧
      decode? (Slice.between (ofText "é\n😀€".toList).content 2 (2 + 5)) =
        some "\n😀".toList ∧
      (ofText "é\n😀€".toList).span { start := some 2, length := some 5 } =
        some { first := { line := 0, column := 2 }, last := { line := 1, column := 4 } } := by
  exact ⟨by decide, rfl, rfl,
    excerpt_and_span_ofText (t := "é\n😀€".toList) (i := 1) (j := 3) (by decide) rfl rfl⟩

end Source

end EvmLocator
