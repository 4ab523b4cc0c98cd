import EvmLocator.Proofs.Json.Showing
import EvmLocator.Proofs.Outcome
import EvmLocator.SourceMap.Lookup

/-!
# What the walk back reads and what it leaves unread

The walk back from an index reads an entry only for the fields that no later entry has settled, and
it ends once every field is settled.  So a malformed entry is noticed or not, depending on what the
entries after it say: it is passed over whole if they settle everything, and a field of it is passed
over if they settle that field.

Whether a text settles a field can be told without reading it: it is not blank, and for a start or a
length it is not `-1`.  This makes the account of the walk one about texts.  `downTo` is what the
walk has seen when it comes to an entry, `FailsAt` says that it cannot read the entry after that,
and `Collected` says that a location holds the texts that are nearest, as numbers or as a jump.  The
last of these is the invariant: it holds of nothing seen and nothing known, and every entry that is
read carries it on.

An index that is out of range is named in the error by its text.  One of too many digits to be
written has no text, and the error is then that.

## Main results

* `fill_ends`: what one entry adds to what is known, or why it cannot be read.
* `settle_ends`: how the walk ends, by induction on the entries that are left.
* `atIndex_eq_rangeError_iff`: an error that blames no entry is that of an index out of range.
* `atIndex_exact`: the value of every index, or the fault and the entry that is blamed.
-/

namespace EvmLocator.SourceMap

open Text

/-! ## Texts that settle fields -/

/-- The text of a field of an entry; a dropped field is blank. -/
def fieldOf (entry : List Char) (j : Nat) : List Char :=
  (split ':' entry).getD j []

/-- Whether a text settles the field number `j`. -/
def Settles (j : Nat) (field : List Char) : Prop :=
  field ≠ [] ∧ ¬ (j < 2 ∧ field = ['-', '1'])

instance (j : Nat) (field : List Char) : Decidable (Settles j field) :=
  inferInstanceAs (Decidable (field ≠ [] ∧ ¬ (j < 2 ∧ field = ['-', '1'])))

/-- Whether one of some entries settles a field. -/
def Settled (seen : List (List Char)) (j : Nat) : Prop :=
  ∃ entry ∈ seen, Settles j (fieldOf entry j)

/-- The text by which an entry settles a field. -/
def settlement? (j : Nat) (entry : List Char) : Option (List Char) :=
  if Settles j (fieldOf entry j) then some (fieldOf entry j) else none

/-- The text by which the first of some entries that settles a field does so. -/
def nearest (seen : List (List Char)) (j : Nat) : Option (List Char) :=
  seen.findSome? (settlement? j)

/-- Whether a text denotes a number. -/
def DenotesNumber (text : List Char) (n : Int) : Prop :=
  IntegerLiteral.parse? text = some n

/-- Whether a text denotes a jump, which it does literally. -/
def DenotesJump (text : List Char) (jump : String) : Prop :=
  String.ofList text = jump

/-- Whether the fields of a location are the nearest texts: a field is absent if no entry settles
it, and is else what the text denotes. -/
structure Collected (seen : List (List Char)) (l : Location) : Prop where
  start : Option.Rel DenotesNumber (nearest seen 0) l.start
  length : Option.Rel DenotesNumber (nearest seen 1) l.length
  file : Option.Rel DenotesNumber (nearest seen 2) l.file
  jump : Option.Rel DenotesJump (nearest seen 3) l.jump
  modifierDepth : Option.Rel DenotesNumber (nearest seen 4) l.modifierDepth

section

variable {seen rest : List (List Char)} {entry : List Char} {j : Nat}

theorem settlement?_eq_some_iff {text : List Char} :
    settlement? j entry = some text ↔ Settles j (fieldOf entry j) ∧ fieldOf entry j = text := by
  unfold settlement?
  split
  · next h => simp [h]
  · next h => simp [h]

theorem settled_iff : Settled seen j ↔ (nearest seen j).isSome = true := by
  rw [nearest, List.findSome?_isSome_iff]
  constructor
  · rintro ⟨entry, hmem, hsettles⟩
    exact ⟨entry, hmem, by rw [settlement?, if_pos hsettles]; rfl⟩
  · rintro ⟨entry, hmem, hsome⟩
    obtain ⟨text, htext⟩ := Option.isSome_iff_exists.mp hsome
    exact ⟨entry, hmem, (settlement?_eq_some_iff.mp htext).1⟩

theorem nearest_eq_none_of_not_settled (h : ¬ Settled seen j) : nearest seen j = none := by
  rw [settled_iff, Bool.not_eq_true, Option.isSome_eq_false_iff, Option.isNone_iff_eq_none] at h
  exact h

theorem nearest_append : nearest (seen ++ rest) j = (nearest seen j).or (nearest rest j) := by
  rw [nearest, List.findSome?_append]
  rfl

theorem nearest_append_of_settled (h : Settled seen j) :
    nearest (seen ++ rest) j = nearest seen j := by
  rw [nearest_append, Option.or_of_isSome (settled_iff.mp h)]

theorem nearest_concat_of_not_settled (h : ¬ Settled seen j) :
    nearest (seen ++ [entry]) j = settlement? j entry := by
  rw [nearest_append, nearest_eq_none_of_not_settled h, Option.none_or, nearest,
    List.findSome?_singleton]

/-- The blank entry settles nothing. -/
theorem nearest_concat_nil : nearest (seen ++ [[]]) j = nearest seen j := by
  have hblank : fieldOf [] j = [] := by
    cases j <;> rfl
  have hnone : nearest [[]] j = none := by
    rw [nearest, List.findSome?_singleton, settlement?, if_neg]
    exact fun h => h.1 hblank
  rw [nearest_append, hnone, Option.or_none]

end

/-! ## What has been collected -/

section

variable {seen seen' : List (List Char)} {l l' : Location}

theorem rel_isSome {α : Type} {r : List Char → α → Prop} {text : Option (List Char)}
    {value : Option α} (h : Option.Rel r text value) : value.isSome = text.isSome := by
  cases h <;> rfl

theorem rel_unique {α : Type} {r : List Char → α → Prop}
    (hr : ∀ text a b, r text a → r text b → a = b) {text : Option (List Char)}
    {value value' : Option α} (h : Option.Rel r text value) (h' : Option.Rel r text value') :
    value = value' := by
  cases h with
  | none =>
      cases h'
      rfl
  | some ha =>
      cases h' with
      | some hb => rw [hr _ _ _ ha hb]

theorem collected_nil : Collected [] {} := ⟨.none, .none, .none, .none, .none⟩

/-- What has been collected depends on the nearest texts only. -/
theorem Collected.congr (h : Collected seen l)
    (hnearest : ∀ j < fieldCount, nearest seen' j = nearest seen j) : Collected seen' l where
  start := by rw [hnearest 0 (by decide)]; exact h.start
  length := by rw [hnearest 1 (by decide)]; exact h.length
  file := by rw [hnearest 2 (by decide)]; exact h.file
  jump := by rw [hnearest 3 (by decide)]; exact h.jump
  modifierDepth := by rw [hnearest 4 (by decide)]; exact h.modifierDepth

theorem Collected.unique (h : Collected seen l) (h' : Collected seen l') : l = l' := by
  have hnumber : ∀ text a b, DenotesNumber text a → DenotesNumber text b → a = b :=
    fun text a b ha hb => Option.some.inj (ha.symm.trans hb)
  have hjump : ∀ text a b, DenotesJump text a → DenotesJump text b → a = b :=
    fun text a b ha hb => ha.symm.trans hb
  have hfields := And.intro (rel_unique hnumber h.start h'.start)
    (And.intro (rel_unique hnumber h.length h'.length)
      (And.intro (rel_unique hnumber h.file h'.file)
        (And.intro (rel_unique hjump h.jump h'.jump)
          (rel_unique hnumber h.modifierDepth h'.modifierDepth))))
  obtain ⟨start, length, file, jump, depth⟩ := l
  simp only at hfields
  obtain ⟨rfl, rfl, rfl, rfl, rfl⟩ := hfields
  rfl

/-- A location is complete once every field is settled. -/
theorem Collected.complete_iff (h : Collected seen l) :
    l.complete = true ↔ ∀ j < fieldCount, Settled seen j := by
  have hfields : l.complete = true ↔ Settled seen 0 ∧ Settled seen 1 ∧ Settled seen 2 ∧
      Settled seen 3 ∧ Settled seen 4 := by
    simp only [Location.complete, Bool.and_eq_true, settled_iff, rel_isSome h.start,
      rel_isSome h.length, rel_isSome h.file, rel_isSome h.jump, rel_isSome h.modifierDepth,
      and_assoc]
  rw [hfields]
  constructor
  · rintro ⟨h0, h1, h2, h3, h4⟩ j hj
    match j, hj with
    | 0, _ => exact h0
    | 1, _ => exact h1
    | 2, _ => exact h2
    | 3, _ => exact h3
    | 4, _ => exact h4
  · intro hall
    exact ⟨hall 0 (by decide), hall 1 (by decide), hall 2 (by decide), hall 3 (by decide),
      hall 4 (by decide)⟩

end

/-! ## Entries that cannot be read -/

/-- Whether a field of an entry is one that has to be read, after the entries seen, and is no
number.  The field number 3 is the jump, which can be any text. -/
structure FieldFails (seen : List (List Char)) (entry : List Char) (j : Nat) : Prop where
  place : j < fieldCount
  number : j ≠ 3
  unsettled : ¬ Settled seen j
  settles : Settles j (fieldOf entry j)
  refused : IntegerLiteral.parse? (fieldOf entry j) = none

/-- Whether an entry cannot be read after the entries seen. -/
def Malformed (seen : List (List Char)) (entry : List Char) : Prop :=
  fieldCount < (split ':' entry).length ∨ ∃ j, FieldFails seen entry j

/-- The error that blames the entry number `k`: for its many fields, or else for the first of its
fields that fails. -/
inductive Blames (seen : List (List Char)) (k : Nat) (entry : List Char) : Error → Prop where
  | tooMany (many : fieldCount < (split ':' entry).length) :
      Blames seen k entry (.tooManyFields k entry)
  | field {j : Nat} (few : (split ':' entry).length ≤ fieldCount)
      (fails : FieldFails seen entry j) (leftmost : ∀ i < j, ¬ FieldFails seen entry i) :
      Blames seen k entry (.invalidField k (fieldOf entry j))

theorem Blames.unique {seen : List (List Char)} {k : Nat} {entry : List Char} {e e' : Error}
    (h : Blames seen k entry e) (h' : Blames seen k entry e') : e = e' := by
  cases h with
  | tooMany many =>
      cases h' with
      | tooMany => rfl
      | field few => omega
  | @field j few fails leftmost =>
      cases h' with
      | tooMany many => omega
      | @field j' few' fails' leftmost' =>
          rcases Nat.lt_trichotomy j j' with hlt | rfl | hlt
          · exact absurd fails (leftmost' j hlt)
          · rfl
          · exact absurd fails' (leftmost j' hlt)

/-! ## Reading one entry -/

/-- The reader of a number field. -/
def readField (j : Nat) (known : Option Int) (k : Nat) (field : List Char) :
    Except Error (Option Int) :=
  if j < 2 then readBound known k field else readNumber known k field

section

variable {seen : List (List Char)} {entry : List Char} {j : Nat} {known : Option Int}

theorem readField_some (j : Nat) (n : Int) (k : Nat) (field : List Char) :
    readField j (some n) k field = .ok (some n) := by
  by_cases hj : j < 2
  · rw [readField, if_pos hj, readBound]
    split <;> rfl
  · rw [readField, if_neg hj]
    rfl

theorem readField_none (j : Nat) (k : Nat) (field : List Char) :
    readField j none k field =
      if Settles j field then
        match IntegerLiteral.parse? field with
        | some n => .ok (some n)
        | none => .error (.invalidField k field)
      else .ok none := by
  unfold readField readBound readNumber Settles
  by_cases hblank : field = []
  · subst hblank
    by_cases hj : j < 2 <;> simp [hj]
  · have hempty : field.isEmpty = false := List.isEmpty_eq_false_iff.mpr hblank
    by_cases hj : j < 2
    · by_cases hminus : field = ['-', '1']
      · simp [hj, hminus]
      · cases IntegerLiteral.parse? field <;> simp [hj, hminus, hblank, hempty]
    · cases IntegerLiteral.parse? field <;> simp [hj, hblank, hempty]

/-- A field fails, and is blamed, or is read as the nearest text. -/
theorem readField_ends (hplace : j < fieldCount) (hnumber : j ≠ 3)
    (h : Option.Rel DenotesNumber (nearest seen j) known) (k : Nat) (entry : List Char) :
    (FieldFails seen entry j ∧
      readField j known k (fieldOf entry j) = .error (.invalidField k (fieldOf entry j))) ∨
    (¬ FieldFails seen entry j ∧ ∃ found, readField j known k (fieldOf entry j) = .ok found ∧
      Option.Rel DenotesNumber (nearest (seen ++ [entry]) j) found) := by
  by_cases hsettled : Settled seen j
  · refine Or.inr ⟨fun hfails => hfails.unsettled hsettled, ?_⟩
    rw [nearest_append_of_settled hsettled]
    rw [settled_iff] at hsettled
    generalize nearest seen j = text at h hsettled ⊢
    cases h with
    | none => cases hsettled
    | some hn => exact ⟨_, readField_some j _ k _, .some hn⟩
  · rw [nearest_concat_of_not_settled hsettled]
    rw [nearest_eq_none_of_not_settled hsettled] at h
    cases h
    rw [readField_none]
    by_cases hsettles : Settles j (fieldOf entry j)
    · rw [settlement?, if_pos hsettles, if_pos hsettles]
      cases hparse : IntegerLiteral.parse? (fieldOf entry j) with
      | none => exact Or.inl ⟨⟨hplace, hnumber, hsettled, hsettles, hparse⟩, rfl⟩
      | some n =>
          refine Or.inr ⟨fun hfails => ?_, some n, rfl, .some hparse⟩
          rw [hfails.refused] at hparse
          cases hparse
    · rw [settlement?, if_neg hsettles, if_neg hsettles]
      exact Or.inr ⟨fun hfails => hsettles hfails.settles, none, rfl, .none⟩

theorem rel_readJump {known : Option String} (h : Option.Rel DenotesJump (nearest seen 3) known)
    (entry : List Char) :
    Option.Rel DenotesJump (nearest (seen ++ [entry]) 3) (readJump known (fieldOf entry 3)) := by
  by_cases hsettled : Settled seen 3
  · rw [nearest_append_of_settled hsettled]
    rw [settled_iff] at hsettled
    generalize nearest seen 3 = text at h hsettled ⊢
    cases h with
    | none => cases hsettled
    | some hjump => exact .some hjump
  · rw [nearest_concat_of_not_settled hsettled]
    rw [nearest_eq_none_of_not_settled hsettled] at h
    cases h
    by_cases hblank : fieldOf entry 3 = []
    · rw [settlement?, if_neg (fun h => h.1 hblank), hblank]
      exact .none
    · have hempty : (fieldOf entry 3).isEmpty = false := List.isEmpty_eq_false_iff.mpr hblank
      have hsettles : Settles 3 (fieldOf entry 3) := ⟨hblank, fun h => absurd h.1 (by decide)⟩
      rw [settlement?, if_pos hsettles, readJump, hempty]
      exact .some rfl

end

/-- How reading an entry ends: with the error that blames it, or with what has been collected up to
it. -/
inductive FillEnds (seen : List (List Char)) (k : Nat) (entry : List Char) :
    Except Error Location → Prop where
  | fails {e : Error} (malformed : Malformed seen entry) (blames : Blames seen k entry e) :
      FillEnds seen k entry (.error e)
  | adds {l : Location} (wellFormed : ¬ Malformed seen entry)
      (collected : Collected (seen ++ [entry]) l) : FillEnds seen k entry (.ok l)

theorem fill_eq (known : Location) (k : Nat) (entry : List Char) :
    known.fill k entry =
      if fieldCount < (split ':' entry).length then .error (.tooManyFields k entry)
      else (do
        let start ← readField 0 known.start k (fieldOf entry 0)
        let length ← readField 1 known.length k (fieldOf entry 1)
        let file ← readField 2 known.file k (fieldOf entry 2)
        let jump := readJump known.jump (fieldOf entry 3)
        let modifierDepth ← readField 4 known.modifierDepth k (fieldOf entry 4)
        pure { start, length, file, jump, modifierDepth }) := rfl

section

variable {seen : List (List Char)} {k : Nat} {entry : List Char} {j : Nat} {known : Option Int}

/-- A field that is read after all before it: it is the one that is blamed, or reading goes on. -/
theorem fillEnds_bind {f : Option Int → Except Error Location}
    (hfew : (split ':' entry).length ≤ fieldCount) (hplace : j < fieldCount) (hnumber : j ≠ 3)
    (hleft : ∀ i < j, ¬ FieldFails seen entry i)
    (h : Option.Rel DenotesNumber (nearest seen j) known)
    (hnext : ∀ found, ¬ FieldFails seen entry j →
      Option.Rel DenotesNumber (nearest (seen ++ [entry]) j) found →
        FillEnds seen k entry (f found)) :
    FillEnds seen k entry (readField j known k (fieldOf entry j) >>= f) := by
  rcases readField_ends hplace hnumber h k entry with ⟨hfails, hread⟩ | ⟨hreads, found, hread, hrel⟩
  · rw [hread]
    exact .fails (Or.inr ⟨j, hfails⟩) (.field hfew hfails hleft)
  · rw [hread]
    exact hnext found hreads hrel

/-- **One entry.**  The fields are read from left to right, so the first that fails is the one that
is blamed. -/
theorem fill_ends {known : Location} (h : Collected seen known) (k : Nat) (entry : List Char) :
    FillEnds seen k entry (known.fill k entry) := by
  rw [fill_eq]
  by_cases hmany : fieldCount < (split ':' entry).length
  · rw [if_pos hmany]
    exact .fails (Or.inl hmany) (.tooMany hmany)
  rw [if_neg hmany]
  have hfew : (split ':' entry).length ≤ fieldCount := Nat.le_of_not_lt hmany
  have hnone : ∀ i < 0, ¬ FieldFails seen entry i := fun i hi => absurd hi (Nat.not_lt_zero i)
  refine fillEnds_bind hfew (by decide) (by decide) hnone h.start fun start hstart hrelStart => ?_
  have hone := Nat.forall_lt_succ_right.mpr ⟨hnone, hstart⟩
  refine fillEnds_bind hfew (by decide) (by decide) hone h.length fun length hlength hrelLength => ?_
  have htwo := Nat.forall_lt_succ_right.mpr ⟨hone, hlength⟩
  refine fillEnds_bind hfew (by decide) (by decide) htwo h.file fun file hfile hrelFile => ?_
  -- A jump is never refused.
  have hthree := Nat.forall_lt_succ_right.mpr ⟨htwo, hfile⟩
  have hfour := Nat.forall_lt_succ_right.mpr ⟨hthree, fun hfails => hfails.number rfl⟩
  refine fillEnds_bind hfew (by decide) (by decide) hfour h.modifierDepth
    fun depth hdepth hrelDepth => ?_
  have hall := Nat.forall_lt_succ_right.mpr ⟨hfour, hdepth⟩
  refine .adds ?_ ⟨hrelStart, hrelLength, hrelFile, rel_readJump h.jump entry, hrelDepth⟩
  rintro (hmalformed | ⟨j, hfails⟩)
  · exact hmany hmalformed
  · exact hall j hfails.place hfails

end

/-! ## The walk back -/

/-- The entries from the number `i` down to the number `m`. -/
def downTo (all : List (List Char)) (i m : Nat) : List (List Char) :=
  ((all.take (i + 1)).drop m).reverse

/-- Whether the walk back from the index `i` cannot read the entry number `k`, if it comes to it:
the entry is not blank, something is left to settle, and the entry cannot be read for that. -/
structure FailsAt (all : List (List Char)) (i k : Nat) (entry : List Char) : Prop where
  le : k ≤ i
  present : all[k]? = some entry
  nonempty : entry ≠ []
  needed : ∃ j < fieldCount, ¬ Settled (downTo all i (k + 1)) j
  malformed : Malformed (downTo all i (k + 1)) entry

/-- How the walk back from the index `i` ends that has `m` entries left: at the last of them that
fails, or with what is collected from all entries down to the first. -/
inductive WalkEnds (all : List (List Char)) (i m : Nat) : Except Error Location → Prop where
  | fails {k : Nat} {entry : List Char} {e : Error} (left : k < m) (fails : FailsAt all i k entry)
      (last : ∀ k' entry', k < k' → k' < m → ¬ FailsAt all i k' entry')
      (blames : Blames (downTo all i (k + 1)) k entry e) : WalkEnds all i m (.error e)
  | arrives {l : Location} (never : ∀ k entry, k < m → ¬ FailsAt all i k entry)
      (collected : Collected (downTo all i 0) l) : WalkEnds all i m (.ok l)

section

variable {all : List (List Char)} {i m : Nat} {entry : List Char}

theorem downTo_succ (hle : m ≤ i) (hentry : all[m]? = some entry) :
    downTo all i m = downTo all i (m + 1) ++ [entry] := by
  have htake : (all.take (i + 1))[m]? = some entry := by
    rw [List.getElem?_take, if_pos (by omega), hentry]
  obtain ⟨hm, hget⟩ := List.getElem?_eq_some_iff.mp htake
  rw [downTo, List.drop_eq_getElem_cons hm, hget, List.reverse_cons, downTo]

/-- What has been seen is seen still when the walk has come further. -/
theorem exists_downTo_eq_append (all : List (List Char)) (i : Nat) {m m' : Nat} (h : m' ≤ m) :
    ∃ rest, downTo all i m' = downTo all i m ++ rest := by
  have hsplit : (all.take (i + 1)).drop m' =
      ((all.take (i + 1)).drop m').take (m - m') ++ (all.take (i + 1)).drop m := by
    have hdrop : (all.take (i + 1)).drop m = ((all.take (i + 1)).drop m').drop (m - m') := by
      rw [List.drop_drop, Nat.add_sub_cancel' h]
    rw [hdrop, List.take_append_drop]
  have hreversed := congrArg List.reverse hsplit
  rw [List.reverse_append] at hreversed
  exact ⟨_, hreversed⟩

theorem mem_downTo_iff :
    entry ∈ downTo all i m ↔ ∃ k, m ≤ k ∧ k ≤ i ∧ all[k]? = some entry := by
  rw [downTo, List.mem_reverse, List.mem_iff_getElem?]
  simp only [List.getElem?_drop, List.getElem?_take]
  constructor
  · rintro ⟨n, hn⟩
    split at hn
    · next hlt => exact ⟨m + n, by omega, by omega, hn⟩
    · cases hn
  · rintro ⟨k, hmk, hki, hk⟩
    refine ⟨k - m, ?_⟩
    rw [Nat.add_sub_cancel' hmk, if_pos (by omega), hk]

/-- A field is settled if an entry on the way settles it. -/
theorem settled_downTo_iff {j : Nat} :
    Settled (downTo all i m) j ↔
      ∃ k entry, m ≤ k ∧ k ≤ i ∧ all[k]? = some entry ∧ Settles j (fieldOf entry j) := by
  constructor
  · rintro ⟨entry, hmem, hsettles⟩
    obtain ⟨k, hmk, hki, hk⟩ := mem_downTo_iff.mp hmem
    exact ⟨k, entry, hmk, hki, hk, hsettles⟩
  · rintro ⟨k, entry, hmk, hki, hk, hsettles⟩
    exact ⟨entry, mem_downTo_iff.mpr ⟨k, hmk, hki, hk⟩, hsettles⟩

/-- A field that is settled stays so. -/
theorem settled_downTo_of_le {m' j : Nat} (hle : m' ≤ m) (h : Settled (downTo all i m) j) :
    Settled (downTo all i m') j := by
  obtain ⟨k, entry, hmk, hrest⟩ := settled_downTo_iff.mp h
  exact settled_downTo_iff.mpr ⟨k, entry, Nat.le_trans hle hmk, hrest⟩

/-- Whether the walk fails at a place is a question about the one entry there. -/
theorem not_failsAt {entry' : List Char} (hentry : all[m]? = some entry)
    (h : ¬ FailsAt all i m entry) : ¬ FailsAt all i m entry' := by
  intro hfails
  have hpresent := hfails.present
  rw [hentry, Option.some.injEq] at hpresent
  exact h (hpresent ▸ hfails)

/-- Where the entry that is left out does not fail, the walk ends as without it. -/
theorem WalkEnds.succ {r : Except Error Location} (h : WalkEnds all i m r)
    (hfails : ∀ entry, ¬ FailsAt all i m entry) : WalkEnds all i (m + 1) r := by
  have hbelow : ∀ k entry, k < m + 1 → FailsAt all i k entry → k < m := by
    intro k entry hk hfailsAt
    by_cases hkm : k = m
    · subst hkm
      exact absurd hfailsAt (hfails entry)
    · omega
  cases h with
  | fails left failsAt last blames =>
      refine .fails (by omega) failsAt (fun k' entry' hlt hk' hfailsAt => ?_) blames
      exact last k' entry' hlt (hbelow k' entry' hk' hfailsAt) hfailsAt
  | arrives never collected =>
      refine .arrives (fun k entry hk hfailsAt => ?_) collected
      exact never k entry (hbelow k entry hk hfailsAt) hfailsAt

/-- Where every field is settled, nothing below can fail, and nothing more is collected. -/
theorem walkEnds_of_settled {l : Location} (h : Collected (downTo all i m) l)
    (hall : ∀ j < fieldCount, Settled (downTo all i m) j) : WalkEnds all i m (.ok l) := by
  refine .arrives (fun k entry hk hfails => ?_) ?_
  · obtain ⟨j, hj, hunsettled⟩ := hfails.needed
    exact hunsettled (settled_downTo_of_le hk (hall j hj))
  · obtain ⟨rest, hrest⟩ := exists_downTo_eq_append all i (Nat.zero_le m)
    rw [hrest]
    exact h.congr fun j hj => nearest_append_of_settled (hall j hj)

theorem reverse_take_succ_zipIdx (hentry : all[m]? = some entry) :
    (all.zipIdx.take (m + 1)).reverse = (entry, m) :: (all.zipIdx.take m).reverse := by
  have hplace : all.zipIdx[m]? = some (entry, m) := by
    rw [List.getElem?_zipIdx, hentry, Option.map_some, Nat.zero_add]
  rw [List.take_add_one, hplace, Option.toList_some, List.reverse_append]
  rfl

/-- **The walk back.**  The induction is on the entries that are left.  What is known is what has
been collected from the entries seen, and something is left to settle. -/
theorem settle_ends {known : Location} (hm : m ≤ i + 1) (hi : i < all.length)
    (hknown : Collected (downTo all i m) known)
    (hneeded : ∃ j < fieldCount, ¬ Settled (downTo all i m) j) :
    WalkEnds all i m (settle known (all.zipIdx.take m).reverse) := by
  induction m generalizing known with
  | zero => exact .arrives (fun k entry hk => absurd hk (Nat.not_lt_zero k)) hknown
  | succ m ih =>
      have hlt : m < all.length := by omega
      have hentry : all[m]? = some all[m] := List.getElem?_eq_getElem hlt
      have hseen := downTo_succ (i := i) (by omega) hentry
      rw [reverse_take_succ_zipIdx hentry, settle]
      by_cases hblank : all[m] = []
      · have hskip : ¬ FailsAt all i m all[m] := fun hfails => hfails.nonempty hblank
        have hnearest : ∀ j, nearest (downTo all i m) j = nearest (downTo all i (m + 1)) j := by
          intro j
          rw [hseen, hblank, nearest_concat_nil]
        rw [if_pos (List.isEmpty_iff.mpr hblank)]
        refine (ih (by omega) (hknown.congr fun j _ => hnearest j) ?_).succ
          fun _ => not_failsAt hentry hskip
        obtain ⟨j, hj, hunsettled⟩ := hneeded
        exact ⟨j, hj, by rwa [settled_iff, hnearest, ← settled_iff]⟩
      · rw [if_neg (by rwa [List.isEmpty_iff])]
        have hfill := fill_ends hknown m all[m]
        generalize known.fill m all[m] = outcome at hfill
        cases hfill with
        | fails malformed blames =>
            exact .fails (Nat.lt_succ_self m) ⟨by omega, hentry, hblank, hneeded, malformed⟩
              (fun k' entry' hlt hk' => by omega) blames
        | @adds l wellFormed collected =>
            have hreads : ¬ FailsAt all i m all[m] := fun hfails => wellFormed hfails.malformed
            rw [← hseen] at collected
            show WalkEnds all i (m + 1) (if l.complete = true then .ok l else settle l _)
            by_cases hcomplete : l.complete = true
            · rw [if_pos hcomplete]
              have hall := collected.complete_iff.mp hcomplete
              exact (walkEnds_of_settled collected hall).succ fun _ => not_failsAt hentry hreads
            · rw [if_neg hcomplete]
              refine (ih (by omega) collected ?_).succ fun _ => not_failsAt hentry hreads
              refine Classical.byContradiction fun hsettled => ?_
              refine hcomplete (collected.complete_iff.mpr fun j hj => ?_)
              exact Classical.byContradiction fun hunsettled => hsettled ⟨j, hj, hunsettled⟩

end

/-! ## The main result -/

section

variable {map : List Char} {index : Integer} {i : Nat}

/-- The walk back from an index within the map. -/
theorem atIndex_ends (hindex : index.value = i) (hi : i < (entries map).length) :
    WalkEnds (entries map) i (i + 1) (atIndex index map) := by
  have hrange : ¬ (index.value < 0 ∨ ((entries map).length : Int) ≤ index.value) := by omega
  have hnumber : index.value.toNat + 1 = i + 1 := by omega
  have hnothing : downTo (entries map) i (i + 1) = [] := by
    rw [downTo, List.drop_eq_nil_of_le (by rw [List.length_take]; omega)]
    rfl
  simp only [atIndex, if_neg hrange, hnumber]
  apply settle_ends (Nat.le_refl _) hi
  · rw [hnothing]
    exact collected_nil
  · refine ⟨0, by decide, ?_⟩
    rw [hnothing]
    rintro ⟨entry, hmem, -⟩
    cases hmem

/-- How the lookup of an index within the map ends, from the entries of the map alone. -/
theorem atIndex_iff (hindex : index.value = i) (hi : i < (entries map).length) :
    (∀ l, atIndex index map = .ok l ↔
      (∀ k entry, ¬ FailsAt (entries map) i k entry) ∧ Collected (downTo (entries map) i 0) l) ∧
    ∀ e, atIndex index map = .error e ↔
      ∃ k entry, FailsAt (entries map) i k entry ∧
        (∀ k' entry', k < k' → ¬ FailsAt (entries map) i k' entry') ∧
        Blames (downTo (entries map) i (k + 1)) k entry e := by
  have hends := atIndex_ends hindex hi
  generalize atIndex index map = outcome at hends ⊢
  apply iff_of_exhaustive
  · rintro l ⟨hnever, hcollected⟩
    cases hends with
    | fails left fails => exact absurd fails (hnever _ _)
    | arrives never collected => rw [collected.unique hcollected]
  · rintro e ⟨k, entry, hfails, hlast, hblames⟩
    cases hends with
    | @fails k' entry' e' left fails last blames =>
        have hk : k' = k := by
          rcases Nat.lt_trichotomy k' k with hlt | heq | hlt
          · exact absurd hfails (last k entry hlt (Nat.lt_succ_of_le hfails.le))
          · exact heq
          · exact absurd fails (hlast k' entry' hlt)
        subst hk
        have hentry := fails.present
        rw [hfails.present, Option.some.injEq] at hentry
        subst hentry
        rw [blames.unique hblames]
    | arrives never => exact absurd hfails (never k entry (Nat.lt_succ_of_le hfails.le))
  · cases hends with
    | @fails k entry e left fails last blames =>
        refine Or.inr ⟨e, k, entry, fails, fun k' entry' hlt hfails => ?_, blames⟩
        exact last k' entry' hlt (Nat.lt_succ_of_le hfails.le) hfails
    | @arrives l never collected =>
        refine Or.inl ⟨l, fun k entry hfails => ?_, collected⟩
        exact never k entry (Nat.lt_succ_of_le hfails.le) hfails

/-! ### Indices out of range -/

theorem rangeError_eq_unfit_iff {n : Nat} {u : Unfit} :
    rangeError index n = .unfit u ↔ index.text = .error u := by
  unfold rangeError
  cases index.text <;> simp

/-- An error that blames no entry is that of an index out of range. -/
theorem atIndex_eq_rangeError_iff {e : Error} (h : ∀ seen k entry, ¬ Blames seen k entry e) :
    atIndex index map = .error e ↔
      (index.value < 0 ∨ ((entries map).length : Int) ≤ index.value) ∧
        rangeError index (entries map).length = e := by
  by_cases hrange : index.value < 0 ∨ ((entries map).length : Int) ≤ index.value
  · have houtcome : atIndex index map = .error (rangeError index (entries map).length) :=
      if_pos hrange
    rw [houtcome, Except.error.injEq, and_iff_right hrange]
  · refine ⟨fun herror => ?_, fun hout => absurd hout.1 hrange⟩
    obtain ⟨i, hi⟩ := Int.eq_ofNat_of_zero_le (show 0 ≤ index.value by omega)
    obtain ⟨k, entry, -, -, hblames⟩ := ((atIndex_iff hi (by omega)).2 _).mp herror
    exact absurd hblames (h _ _ _)

/-- ... unless it has too many digits to have one. -/
theorem atIndex_eq_unfit_iff {u : Unfit} :
    atIndex index map = .error (.unfit u) ↔
      (index.value < 0 ∨ ((entries map).length : Int) ≤ index.value) ∧
        10 ^ IntegerLiteral.digitLimit ≤ index.value.natAbs ∧ u = .numeralTooLong := by
  have hindex : ∀ seen k entry, ¬ Blames seen k entry (.unfit u) := by
    intro _ _ _ hblames
    cases hblames
  rw [atIndex_eq_rangeError_iff hindex, rangeError_eq_unfit_iff,
    index.writtenIff_text.eq_error_iff, IntegerLiteral.not_fits_iff]

end

end EvmLocator.SourceMap
