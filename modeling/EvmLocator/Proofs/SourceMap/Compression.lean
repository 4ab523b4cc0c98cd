import EvmLocator.Proofs.SourceMap.Agreement
import EvmLocator.Proofs.Text.Numeral

/-!
# Compressed source maps

A compiler does not write every field of every location.  A field that is the same as in the
location before may be left blank, or be dropped with all the fields after it, and a start or a
length may then be written `-1`; an entry whose fields are all dropped is an empty text.  So one
sequence of locations has many writings, and `Compresses` says which texts they are.

All of them decompress to the sequence they are written from.  A field that is written gives its
own value, and one that is not leaves the field open; what is open is taken from the location
before, which has the same value there.  The induction is over the entries, and it carries the
location before, which is complete from the second entry on.

The number reader sets one limit: a numeral of more than `digitLimit` digits, leading zeros
included, is not read.  A writing with such a numeral is refused as a whole, even though the number
may be small.

## Main results

* `Writes.decodeFrom_eq_ok_iff`: what entries that write sites are read as, and when they are.
* `decode_of_compresses`: a writing decompresses to what it is written from, wholly and at every
  index.
* `long_numerals_refused`: writings with a number that does not fit.
-/

namespace EvmLocator

namespace SourceMap

open Text

/-- A location as a compiler knows it: every field is there, the bytes are a range, and the text of
the jump can stand in a field. -/
structure Site where
  start : Nat
  length : Nat
  file : Int
  jump : String
  modifierDepth : Int
  jump_ne_nil : jump.toList ≠ []
  colon_notMem : ':' ∉ jump.toList
  semicolon_notMem : ';' ∉ jump.toList

/-- The location of a site. -/
def Site.location (s : Site) : Location :=
  { start := some (s.start : Int)
    length := some (s.length : Int)
    file := some s.file
    jump := some s.jump
    modifierDepth := some s.modifierDepth }

/-! ## Writings -/

/-- Whether a text writes the field `value` where the location before has `last`.  A dropped field
counts as a blank one. -/
inductive FieldWritten {α : Type} (Spells : α → List Char → Prop) (last : Option α) (value : α) :
    List Char → Prop
  | full {text : List Char} (spells : Spells value text) : FieldWritten Spells last value text
  | blank (same : last = some value) : FieldWritten Spells last value []

/-- Whether a text writes the start or the length `value` where the location before has `last`. -/
inductive BoundWritten (last : Option Int) (value : Int) : List Char → Prop
  | field {text : List Char} (written : FieldWritten IsNumeral last value text) :
      BoundWritten last value text
  | minusOne (same : last = some value) : BoundWritten last value ['-', '1']

/-- Whether the fields of an entry write a site after the location `last`. -/
structure EntryWritten (last : Location) (site : Site) (fields : List (List Char)) : Prop where
  nonempty : fields ≠ []
  count : fields.length ≤ fieldCount
  start : BoundWritten last.start site.start (fields.getD 0 [])
  length : BoundWritten last.length site.length (fields.getD 1 [])
  file : FieldWritten IsNumeral last.file site.file (fields.getD 2 [])
  jump : FieldWritten (fun jump text => text = jump.toList) last.jump site.jump (fields.getD 3 [])
  modifierDepth :
    FieldWritten IsNumeral last.modifierDepth site.modifierDepth (fields.getD 4 [])

/-- Whether the texts of entries write sites, one after another, after the location `last`. -/
inductive Writes : Location → List Site → List (List Char) → Prop
  | nil {last : Location} : Writes last [] []
  | cons {last : Location} {site : Site} {fields : List (List Char)} {sites : List Site}
      {texts : List (List Char)} (entry : EntryWritten last site fields)
      (rest : Writes site.location sites texts) :
      Writes last (site :: sites) (join ':' fields :: texts)

/-- Whether a source map is a compressed writing of a sequence of sites. -/
def Compresses (sites : List Site) (map : List Char) : Prop :=
  sites ≠ [] ∧ ∃ texts, Writes {} sites texts ∧ map = join ';' texts

/-- Whether the numbers of an entry have no more digits than the limit.  The fourth field is the
jump. -/
def EntryFits (entry : List Char) : Prop :=
  ∀ i < fieldCount, i ≠ 3 →
    digitCount ((split ':' entry).getD i []) ≤ IntegerLiteral.digitLimit

/-- Whether no number of a source map has more digits than the limit. -/
def NumbersFit (map : List Char) : Prop :=
  ∀ entry ∈ entries map, EntryFits entry

instance (entry : List Char) : Decidable (EntryFits entry) :=
  inferInstanceAs (Decidable (∀ i < fieldCount, i ≠ 3 →
    digitCount ((split ':' entry).getD i []) ≤ IntegerLiteral.digitLimit))

instance (map : List Char) : Decidable (NumbersFit map) :=
  inferInstanceAs (Decidable (∀ entry ∈ entries map, EntryFits entry))

/-! ## Separators -/

theorem FieldWritten.notMem {α : Type} {Spells : α → List Char → Prop} {last : Option α}
    {value : α} {text : List Char} {c : Char} (h : FieldWritten Spells last value text)
    (hspells : ∀ t, Spells value t → c ∉ t) : c ∉ text := by
  cases h with
  | full spells => exact hspells text spells
  | blank => exact List.not_mem_nil

section

variable {last : Option Int} {n : Int} {text : List Char} {c : Char}

theorem FieldWritten.notMem_of_isNumeral (h : FieldWritten IsNumeral last n text)
    (hdigit : c.isDigit = false) (hminus : c ≠ '-') : c ∉ text :=
  h.notMem fun _ hnumeral => hnumeral.notMem hdigit hminus

theorem BoundWritten.notMem (h : BoundWritten last n text) (hdigit : c.isDigit = false)
    (hminus : c ≠ '-') : c ∉ text := by
  cases h with
  | field written => exact written.notMem_of_isNumeral hdigit hminus
  | minusOne =>
      have hone : c ≠ '1' := fun hc => ne_of_isDigit (c := '1') (by decide) hdigit hc.symm
      simp [hminus, hone]

end

namespace EntryWritten

variable {last : Location} {site : Site} {fields : List (List Char)}

theorem notMem (h : EntryWritten last site fields) {c : Char} (hdigit : c.isDigit = false)
    (hminus : c ≠ '-') (hjump : c ∉ site.jump.toList) : ∀ field ∈ fields, c ∉ field := by
  intro field hfield
  obtain ⟨i, hi, rfl⟩ := List.getElem_of_mem hfield
  have hplace : fields[i] = fields.getD i [] := by
    rw [List.getD_eq_getElem?_getD, List.getElem?_eq_getElem hi, Option.getD_some]
  have hcount := Nat.lt_of_lt_of_le hi h.count
  rw [hplace]
  match i, hcount with
  | 0, _ => exact h.start.notMem hdigit hminus
  | 1, _ => exact h.length.notMem hdigit hminus
  | 2, _ => exact h.file.notMem_of_isNumeral hdigit hminus
  | 3, _ => exact h.jump.notMem fun _ ht => ht ▸ hjump
  | 4, _ => exact h.modifierDepth.notMem_of_isNumeral hdigit hminus

theorem split_join (h : EntryWritten last site fields) : split ':' (join ':' fields) = fields :=
  Text.split_join h.nonempty (h.notMem (by decide) (by decide) site.colon_notMem)

theorem semicolon_notMem (h : EntryWritten last site fields) : ';' ∉ join ':' fields :=
  notMem_join (by decide) (h.notMem (by decide) (by decide) site.semicolon_notMem)

end EntryWritten

theorem Writes.semicolon_notMem {last : Location} {sites : List Site} {texts : List (List Char)}
    (h : Writes last sites texts) : ∀ text ∈ texts, ';' ∉ text := by
  induction h with
  | nil => simp
  | cons entry _ ih =>
      intro text htext
      rcases List.mem_cons.mp htext with rfl | htext
      · exact entry.semicolon_notMem
      · exact ih text htext

theorem Writes.entries_join {last : Location} {sites : List Site} {texts : List (List Char)}
    (h : Writes last sites texts) (hne : sites ≠ []) : entries (join ';' texts) = texts := by
  have htexts : texts ≠ [] := by
    cases h with
    | nil => exact absurd rfl hne
    | cons => exact List.cons_ne_nil _ _
  exact split_join htexts h.semicolon_notMem

/-! ## What the fields of an entry are read as -/

section

variable {last : Option Int} {n : Int} {text : List Char}

/-- A number field is read if it fits, and then gives the value together with the location
before. -/
theorem FieldWritten.exists_readNumber (h : FieldWritten IsNumeral last n text) (k : Nat) :
    ∃ own : Option Int, (own <|> last) = some n ∧ ∀ found,
      readNumber none k text = .ok found ↔
        found = own ∧ digitCount text ≤ IntegerLiteral.digitLimit := by
  cases h with
  | full spells =>
      refine ⟨some n, rfl, fun found => ?_⟩
      have hempty : text.isEmpty = false := List.isEmpty_eq_false_iff.mpr spells.ne_nil
      have hparse := IntegerLiteral.parse?_of_isNumeral spells
      by_cases hfits : digitCount text ≤ IntegerLiteral.digitLimit
      · rw [if_pos hfits] at hparse
        simp [readNumber, hempty, hparse, hfits, eq_comm]
      · rw [if_neg hfits] at hparse
        simp [readNumber, hempty, hparse, hfits]
  | blank same =>
      refine ⟨none, same, fun found => ?_⟩
      have hcount : digitCount [] ≤ IntegerLiteral.digitLimit := Nat.zero_le _
      simp [readNumber, hcount, eq_comm]

theorem BoundWritten.exists_readBound (h : BoundWritten last n text) (hn : 0 ≤ n) (k : Nat) :
    ∃ own : Option Int, (own <|> last) = some n ∧ ∀ found,
      readBound none k text = .ok found ↔
        found = own ∧ digitCount text ≤ IntegerLiteral.digitLimit := by
  cases h with
  | field written =>
      have hminus : text ≠ ['-', '1'] := by
        rintro rfl
        cases written with
        | full spells =>
            have hn' : n = -1 := spells.eq_of_minus
            omega
      simp only [readBound, if_neg hminus]
      exact written.exists_readNumber k
  | minusOne same =>
      refine ⟨none, same, fun found => ?_⟩
      have hcount : digitCount ['-', '1'] ≤ IntegerLiteral.digitLimit := by decide
      simp [readBound, hcount, eq_comm]

theorem FieldWritten.readJump_or {last : Option String} {jump : String}
    (h : FieldWritten (fun jump text => text = jump.toList) last jump text)
    (hne : jump.toList ≠ []) : (readJump none text <|> last) = some jump := by
  cases h with
  | full spells =>
      subst spells
      have hempty : jump.toList.isEmpty = false := List.isEmpty_eq_false_iff.mpr hne
      simp [readJump, hempty]
  | blank same => exact same

end

/-! ## What the entries are read as -/

theorem entryFits_iff (entry : List Char) :
    EntryFits entry ↔
      digitCount ((split ':' entry).getD 0 []) ≤ IntegerLiteral.digitLimit ∧
        digitCount ((split ':' entry).getD 1 []) ≤ IntegerLiteral.digitLimit ∧
        digitCount ((split ':' entry).getD 2 []) ≤ IntegerLiteral.digitLimit ∧
        digitCount ((split ':' entry).getD 4 []) ≤ IntegerLiteral.digitLimit := by
  constructor
  · intro h
    exact ⟨h 0 (by decide) (by decide), h 1 (by decide) (by decide), h 2 (by decide) (by decide),
      h 4 (by decide) (by decide)⟩
  · rintro ⟨h0, h1, h2, h4⟩ i hi hjump
    match i, hi, hjump with
    | 0, _, _ => exact h0
    | 1, _, _ => exact h1
    | 2, _, _ => exact h2
    | 4, _, _ => exact h4

section

variable {last : Location} {site : Site} {fields : List (List Char)}

/-- **One entry.**  An entry is read if its numbers fit, and then gives the site together with the
location before. -/
theorem EntryWritten.exists_fill (h : EntryWritten last site fields) (k : Nat) :
    ∃ own : Location, own.orElse last = site.location ∧ ∀ found,
      Location.fill {} k (join ':' fields) = .ok found ↔
        found = own ∧ EntryFits (join ':' fields) := by
  obtain ⟨start, hstart, hreadStart⟩ := h.start.exists_readBound (Int.natCast_nonneg _) k
  obtain ⟨length, hlength, hreadLength⟩ := h.length.exists_readBound (Int.natCast_nonneg _) k
  obtain ⟨file, hfile, hreadFile⟩ := h.file.exists_readNumber k
  obtain ⟨depth, hdepth, hreadDepth⟩ := h.modifierDepth.exists_readNumber k
  have hjump := h.jump.readJump_or site.jump_ne_nil
  refine ⟨⟨start, length, file, readJump none (fields.getD 3 []), depth⟩, ?_, fun found => ?_⟩
  · simp only [Location.orElse, hstart, hlength, hfile, hjump, hdepth]
    rfl
  · rw [fill_eq_ok_iff, entryFits_iff, h.split_join, hreadStart, hreadLength, hreadFile,
      hreadDepth]
    cases found
    simp only [Location.mk.injEq]
    constructor
    · rintro ⟨-, ⟨rfl, h0⟩, ⟨rfl, h1⟩, ⟨rfl, h2⟩, rfl, rfl, h4⟩
      exact ⟨⟨rfl, rfl, rfl, rfl, rfl⟩, h0, h1, h2, h4⟩
    · rintro ⟨⟨rfl, rfl, rfl, rfl, rfl⟩, h0, h1, h2, h4⟩
      exact ⟨h.count, ⟨rfl, h0⟩, ⟨rfl, h1⟩, ⟨rfl, h2⟩, rfl, rfl, h4⟩

/-- **Entry after entry.**  Entries that write sites are read if their numbers fit, and then as these
sites. -/
theorem Writes.decodeFrom_eq_ok_iff {sites : List Site} {texts : List (List Char)}
    (h : Writes last sites texts) (k : Nat) (found : List Location) :
    decodeFrom last (texts.zipIdx k) = .ok found ↔
      found = sites.map Site.location ∧ ∀ text ∈ texts, EntryFits text := by
  induction h generalizing k found with
  | nil => simp [decodeFrom, eq_comm]
  | @cons last site fields sites texts entry rest ih =>
      obtain ⟨own, hown, hfill⟩ := entry.exists_fill k
      rw [List.zipIdx_cons, List.map_cons, List.forall_mem_cons]
      by_cases hfits : EntryFits (join ':' fields)
      · have hread : Location.fill {} k (join ':' fields) = .ok own := (hfill own).mpr ⟨rfl, hfits⟩
        -- The entry completes to its site, so the rest goes on from where it was written.
        rw [decodeFrom_of_own hread, hown]
        cases hrest : decodeFrom site.location (texts.zipIdx (k + 1)) with
        | error e =>
            have hnot : ¬ ∀ text ∈ texts, EntryFits text := by
              intro hall
              have hok := (ih (k + 1) _).mpr ⟨rfl, hall⟩
              rw [hrest] at hok
              cases hok
            simp [Except.map, hnot]
        | ok later =>
            obtain ⟨rfl, hall⟩ := (ih (k + 1) later).mp hrest
            rw [and_iff_left ⟨hfits, hall⟩]
            simp [Except.map, eq_comm]
      · cases hread : Location.fill {} k (join ':' fields) with
        | ok own' => exact absurd ((hfill own').mp hread).2 hfits
        | error e =>
            rw [decodeFrom_of_error hread]
            simp [hfits]

end

/-! ## Whole maps -/

/-- A writing decompresses to what it is written from, if its numbers fit, and else to nothing. -/
theorem decode_eq_ok_iff {sites : List Site} {map : List Char} (h : Compresses sites map)
    (found : List Location) :
    decode map = .ok found ↔ found = sites.map Site.location ∧ NumbersFit map := by
  obtain ⟨hne, texts, hwrites, rfl⟩ := h
  rw [decode, NumbersFit, hwrites.entries_join hne]
  exact hwrites.decodeFrom_eq_ok_iff 0 found

/-! ## Maps of one entry -/

/-- A site at one byte of the first file. -/
def byteAt (start : Nat) : Site :=
  { start, length := 1, file := 0, jump := "-", modifierDepth := 0
    jump_ne_nil := by decide
    colon_notMem := by decide
    semicolon_notMem := by decide }

/-- A site in no file, where a function is entered. -/
def inwardAt (start : Nat) : Site :=
  { start, length := 1, file := -1, jump := "i", modifierDepth := 0
    jump_ne_nil := by decide
    colon_notMem := by decide
    semicolon_notMem := by decide }

/-- The map of one entry that writes such a site with the given text for its start. -/
def byteMap (start : List Char) : List Char :=
  join ':' [start, ['1'], ['0'], ['-'], ['0']]

section

variable {start : Nat} {text : List Char} (h : IsNumeral start text)
include h

theorem entryWritten_byteAt :
    EntryWritten {} (byteAt start) [text, ['1'], ['0'], ['-'], ['0']] := by
  have hzero : IsNumeral (0 : Nat) ['0'] := .of_digit rfl rfl
  have hone : IsNumeral (1 : Nat) ['1'] := .of_digit rfl rfl
  have hjump : ['-'] = (byteAt start).jump.toList := by simp [byteAt]
  exact
    { nonempty := List.cons_ne_nil _ _
      count := Nat.le_refl _
      start := .field (.full h)
      length := .field (.full hone)
      file := .full hzero
      jump := .full hjump
      modifierDepth := .full hzero }

theorem compresses_byteMap : Compresses [byteAt start] (byteMap text) :=
  ⟨List.cons_ne_nil _ _, [byteMap text], .cons (entryWritten_byteAt h) .nil, rfl⟩

theorem numbersFit_byteMap_iff :
    NumbersFit (byteMap text) ↔ digitCount text ≤ IntegerLiteral.digitLimit := by
  have hentries : entries (byteMap text) = [byteMap text] :=
    Writes.entries_join (.cons (entryWritten_byteAt h) .nil) (List.cons_ne_nil _ _)
  have hone : digitCount ['1'] ≤ IntegerLiteral.digitLimit := by decide
  have hzero : digitCount ['0'] ≤ IntegerLiteral.digitLimit := by decide
  rw [NumbersFit, hentries, List.forall_mem_singleton, entryFits_iff, byteMap,
    (entryWritten_byteAt h).split_join]
  exact and_iff_left ⟨hone, hzero, hzero⟩

theorem not_numbersFit_byteMap (hlong : IntegerLiteral.digitLimit < digitCount text) :
    ¬ NumbersFit (byteMap text) := by
  rw [numbersFit_byteMap_iff h]
  omega

end

theorem isNumeral_padded : IsNumeral (5 : Nat) (List.replicate 4300 '0' ++ ['5']) := by
  have hfive : ∀ c ∈ ['5'], c.isDigit = true := List.forall_mem_singleton.mpr rfl
  exact isNumeral_zeros_append hfive 4300 (List.cons_ne_nil _ _)

theorem digitCount_padded : digitCount (List.replicate 4300 '0' ++ ['5']) = 4301 :=
  digitCount_zeros_append (List.forall_mem_singleton.mpr rfl) 4300

/-- **Decompression inverts every compression.**  A writing of a sequence of locations whose numbers
fit decompresses to that sequence, and every index has its own location of it.  A writing with a
number that does not fit is refused. -/
theorem decode_of_compresses {sites : List Site} {map : List Char} (h : Compresses sites map) :
    (NumbersFit map →
      decode map = .ok (sites.map Site.location) ∧
        ∀ (i : Nat) (site : Site), sites[i]? = some site →
          atIndex (.num i) map = .ok site.location) ∧
    (¬ NumbersFit map → ∃ e, decode map = .error e) := by
  constructor
  · intro hfits
    have hdecode : decode map = .ok (sites.map Site.location) :=
      (decode_eq_ok_iff h _).mpr ⟨rfl, hfits⟩
    refine ⟨hdecode, fun i site hsite => atIndex_of_decode hdecode ?_⟩
    rw [List.getElem?_map, hsite]
    rfl
  · intro hfits
    cases hdecode : decode map with
    | error e => exact ⟨e, rfl⟩
    | ok found => exact absurd ((decode_eq_ok_iff h found).mp hdecode).2 hfits

theorem decode_of_compresses_sample :
    Compresses [byteAt 7, byteAt 7, byteAt 9, inwardAt 9] "7:1:0:-:0;;9:-1;::-1:i".toList ∧
      NumbersFit "7:1:0:-:0;;9:-1;::-1:i".toList ∧
      decode "7:1:0:-:0;;9:-1;::-1:i".toList =
        .ok [(byteAt 7).location, (byteAt 7).location, (byteAt 9).location,
          (inwardAt 9).location] ∧
      atIndex (.num 3) "7:1:0:-:0;;9:-1;::-1:i".toList = .ok (inwardAt 9).location ∧
      Compresses [byteAt 5] (byteMap (List.replicate 4300 '0' ++ ['5'])) ∧
      ¬ NumbersFit (byteMap (List.replicate 4300 '0' ++ ['5'])) ∧
      ∃ e, decode (byteMap (List.replicate 4300 '0' ++ ['5'])) = .error e := by
  have hseven : IsNumeral (7 : Nat) ['7'] := .of_digit rfl rfl
  have hnine : IsNumeral (9 : Nat) ['9'] := .of_digit rfl rfl
  have hminus : IsNumeral (-(1 : Nat)) ['-', '1'] :=
    .of_minus_digits (List.cons_ne_nil _ _) (List.forall_mem_singleton.mpr rfl) rfl
  have hsame : EntryWritten (byteAt 7).location (byteAt 7) [[]] :=
    { nonempty := List.cons_ne_nil _ _
      count := by decide
      start := .field (.blank rfl)
      length := .field (.blank rfl)
      file := .blank rfl
      jump := .blank rfl
      modifierDepth := .blank rfl }
  have hmoved : EntryWritten (byteAt 7).location (byteAt 9) [['9'], ['-', '1']] :=
    { nonempty := List.cons_ne_nil _ _
      count := by decide
      start := .field (.full hnine)
      length := .minusOne rfl
      file := .blank rfl
      jump := .blank rfl
      modifierDepth := .blank rfl }
  have hentered : EntryWritten (byteAt 9).location (inwardAt 9) [[], [], ['-', '1'], ['i']] :=
    { nonempty := List.cons_ne_nil _ _
      count := by decide
      start := .field (.blank rfl)
      length := .field (.blank rfl)
      file := .full hminus
      jump := .full (by simp [inwardAt])
      modifierDepth := .blank rfl }
  have hwrites := Writes.cons (entryWritten_byteAt hseven)
    (.cons hsame (.cons hmoved (.cons hentered .nil)))
  have hcompresses : Compresses [byteAt 7, byteAt 7, byteAt 9, inwardAt 9]
      "7:1:0:-:0;;9:-1;::-1:i".toList :=
    ⟨List.cons_ne_nil _ _, _, hwrites, by decide⟩
  have hfits : NumbersFit "7:1:0:-:0;;9:-1;::-1:i".toList := by decide
  obtain ⟨hdecode, hindex⟩ := (decode_of_compresses hcompresses).1 hfits
  have hlong := not_numbersFit_byteMap isNumeral_padded
    (digitCount_padded.symm ▸ by decide)
  refine ⟨hcompresses, hfits, hdecode, hindex 3 (inwardAt 9) rfl,
    compresses_byteMap isNumeral_padded, hlong, ?_⟩
  exact (decode_of_compresses (compresses_byteMap isNumeral_padded)).2 hlong

/-! ## Numbers that do not fit -/

/-- A number with zeros in front, and a number that is as long without them. -/
theorem long_numerals_refused :
    (Compresses [byteAt 5] (byteMap (List.replicate 4300 '0' ++ ['5'])) ∧
      decode (byteMap (List.replicate 4300 '0' ++ ['5'])) ≠ .ok [(byteAt 5).location]) ∧
    (Compresses [byteAt (10 ^ 4300)] (byteMap ('1' :: List.replicate 4300 '0')) ∧
      decode (byteMap ('1' :: List.replicate 4300 '0')) ≠
        .ok [(byteAt (10 ^ 4300)).location]) := by
  have hrefused : ∀ {start : Nat} {text : List Char}, IsNumeral start text →
      IntegerLiteral.digitLimit < digitCount text →
      decode (byteMap text) ≠ .ok [(byteAt start).location] := by
    intro start text h hlong hdecode
    have hfits := ((decode_eq_ok_iff (compresses_byteMap h) _).mp hdecode).2
    exact not_numbersFit_byteMap h hlong hfits
  have hpower := isNumeral_ten_pow 4300
  refine ⟨⟨compresses_byteMap isNumeral_padded, hrefused isNumeral_padded ?_⟩,
    compresses_byteMap hpower, hrefused hpower ?_⟩
  · rw [digitCount_padded]
    decide
  · rw [digitCount_one_zeros]
    decide

end SourceMap

end EvmLocator
