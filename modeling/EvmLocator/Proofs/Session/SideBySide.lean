import EvmLocator.Proofs.Session.Stages
import EvmLocator.Proofs.Session.Transparency
import EvmLocator.Proofs.Table

/-!
# Lookups side by side do not meet

Lookups side by side share the tables of their session, and one that waits resumes after others have
written them.  Still each answers as it would alone.  One that does not wait is done before the
next begins.  One that waits takes up again with the provider's code, which is what it would have
taken up with at once, and looks at no table entry but the one that it has just written itself.

The writings do meet, since several lookups may attribute the code of one address, each to a
contract of its own catalog.  They are written in the order in which the lookups end (`endings`), so
the last of them stays.  What each writes is again what it would write alone.

Resuming the lookups that an order leaves out is resuming all of them in the order of their numbers,
since one that is finished is not resumed again (`finish_eq_foldl`).  So the whole second stage is
one fold over numbers, and the induction is on them.

## Main results

* `resumeAll`: what resuming lookups in an order leaves of their slots and of the source maps.
* `gather_eq_alone`: every lookup answers as alone, and the last attribution stays.
-/

namespace EvmLocator

/-- The source map of the contract that a lookup attributes its code to, if it gets so far. -/
def Lookup.attributedBy (q : Lookup) : Except Fault LoadedCode → Option MatchedMap
  | .error _ => none
  | .ok code => match q.catalog.resolve with
    | .error _ => none
    | .ok catalog => (Session.findMap q.address code.bytecode catalog).1

/-- Whether a lookup waits. -/
def Slot.isWaiting : Slot → Bool
  | .waiting _ => true
  | .finished _ => false

/-- A lookup among others, with the session at the moment at which it begins. -/
structure Start where
  session : Session
  lookup : Lookup

namespace Start

/-- What the lookup answers if nothing comes between. -/
def alone (st : Start) : Except Fault Location :=
  (st.session.locate st.lookup).answer

/-- The lookup after its first part. -/
def slot (st : Start) : Slot :=
  match st.session.begin st.lookup with
  | .finished step => .finished step.answer
  | .waiting => .waiting st.lookup

/-- Whether the lookup waits for the provider. -/
def waits (st : Start) : Bool :=
  st.slot.isWaiting

/-- The source map of the contract that the lookup attributes its code to if nothing comes between.
A lookup whose source map is kept attributes nothing. -/
def attributed (st : Start) : Option MatchedMap :=
  match st.session.maps.get? (Address.key st.lookup.address) with
  | some _ => none
  | none => st.lookup.attributedBy (st.session.getCode st.lookup.address).answer

/-- The source map that the lookup brings in for a key. -/
def writes (key : String) (st : Start) : Option MatchedMap :=
  if Address.key st.lookup.address = key then st.attributed else none

end Start

namespace Gathering

/-- Lookups side by side, each with the session that the ones before it have left when it begins. -/
def starts (s : Session) : List Lookup → List Start
  | [] => []
  | q :: rest => { session := s, lookup := q } :: starts (launch s [q]).session rest

/-- The lookups in the order in which they end: those that do not wait, as they began, then those
that wait, as the order first names them, and those that it leaves out, as they began. -/
def endings (starts : List Start) (order : List Nat) : List Start :=
  let resumptions := (order ++ List.range starts.length).filter fun i => starts[i]?.any Start.waits
  starts.filter (fun st => !st.waits) ++ resumptions.eraseDups.filterMap fun i => starts[i]?

/-- The source map that the last of some lookups brings in for a key. -/
def lastWritten (key : String) (sts : List Start) : Option MatchedMap :=
  (sts.filterMap (Start.writes key)).getLast?

@[simp] theorem lastWritten_nil (key : String) : lastWritten key [] = none := rfl

theorem lastWritten_append (key : String) (before after : List Start) :
    lastWritten key (before ++ after) = (lastWritten key after).or (lastWritten key before) := by
  rw [lastWritten, List.filterMap_append, List.getLast?_append, lastWritten, lastWritten]

theorem lastWritten_singleton (key : String) (st : Start) :
    lastWritten key [st] = st.writes key := by
  unfold lastWritten
  cases h : st.writes key <;> simp [h]

theorem lastWritten_cons (key : String) (st : Start) (sts : List Start) :
    lastWritten key (st :: sts) = (lastWritten key sts).or (st.writes key) := by
  rw [← List.singleton_append, lastWritten_append, lastWritten_singleton]

end Gathering

namespace Session

variable {s s' given : Session} {q : Lookup} {address : String}

/-! ## What one lookup brings in -/

/-- The end of a lookup writes the source map of the contract that it has found, under the key of
its address. -/
theorem get?_maps_complete (hdeployed : Address.isCreation address = false) (s : Session)
    (q : Lookup) (outcome : Except Fault LoadedCode) :
    (s.complete q outcome).session.maps.get? (Address.key address) =
      (if Address.key q.address = Address.key address then q.attributedBy outcome else none).or
        (s.maps.get? (Address.key address)) := by
  have hend := completion s q outcome
  generalize s.complete q outcome = step at hend ⊢
  cases hend with
  | noCode f => simp [Lookup.attributedBy]
  | noCatalog fails => simp [Lookup.attributedBy, fails]
  | unmatched resolves found => simp [Lookup.attributedBy, resolves, found]
  | attributed resolves found writes =>
      simp only [writes, Lookup.attributedBy, resolves, found]
      cases hcreation : Address.isCreation q.address with
      | true =>
          have hkey : Address.key q.address ≠ Address.key address := by
            intro hkey
            rw [Address.isCreation_eq_of_key hkey, hdeployed] at hcreation
            cases hcreation
          simp [hkey]
      | false =>
          simp only [Bool.false_eq_true, ↓reduceIte, Table.get?_put, beq_iff_eq]
          split <;> rfl

/-- A lookup that does not wait brings in what it attributes. -/
theorem get?_maps_begin (hdeployed : Address.isCreation address = false) {step : Step Location}
    (hbegin : s.begin q = .finished step) :
    step.session.maps.get? (Address.key address) =
      (Start.writes (Address.key address) { session := s, lookup := q }).or
        (s.maps.get? (Address.key address)) := by
  rw [← locate_of_begin hbegin]
  unfold Start.writes Start.attributed
  cases hmap : s.maps.get? (Address.key q.address) with
  | some m =>
      rw [locate_of_map hmap]
      simp
  | none =>
      rw [locate_of_no_map hmap, get?_maps_complete hdeployed, maps_getCode]

/-- A lookup that has waited brings in what it would have attributed without waiting, whatever has
been written in the meantime. -/
theorem get?_maps_resume (hdeployed : Address.isCreation address = false) {st : Start}
    (hwaits : st.session.begin st.lookup = .waiting) (hsame : st.session.bare = s.bare) :
    (s.resume st.lookup).session.maps.get? (Address.key address) =
      (st.writes (Address.key address)).or (s.maps.get? (Address.key address)) := by
  obtain ⟨hmap, horigin⟩ := begin_eq_waiting_iff.mp hwaits
  have hprovider : st.session.provider = s.provider := by
    show st.session.bare.provider = s.bare.provider
    rw [hsame]
  have hfetched : (s.fetch st.lookup.address).1 = (st.session.fetch st.lookup.address).1 :=
    fst_fetch (by rw [hprovider])
  simp only [resume]
  rw [get?_maps_complete hdeployed, maps_fetch, hfetched]
  simp only [Start.writes, Start.attributed, hmap, getCode, horigin]

/-- A lookup that has waited answers as if it had not, whatever has been written in the
meantime. -/
theorem answer_resume_eq_alone {st : Start} (hwaits : st.session.begin st.lookup = .waiting)
    (hsame : st.session.bare = s.bare) : (s.resume st.lookup).answer = st.alone := by
  have hstart := registered_of_begin hwaits
  have hnow : s.registered.get? st.lookup.address = none := by
    rw [← registered_eq_of_bare hsame]
    exact hstart
  have halone : st.alone = (st.session.resume st.lookup).answer := by
    simp only [Start.alone, locate, hwaits]
  rw [halone, answer_resume_eq_uncached hnow, answer_resume_eq_uncached hstart,
    uncached_eq_of_bare hsame]

end Session

/-! ## The first stage -/

namespace Gathering

open Session

variable {s given : Session} {sts : List Start} {slots : List Slot} {g : Gathering}

theorem launch_cons (s : Session) (q : Lookup) (rest : List Lookup) :
    launch s (q :: rest) =
      { session := (launch (launch s [q]).session rest).session
        events := (launch s [q]).events ++ (launch (launch s [q]).session rest).events
        slots := (launch s [q]).slots ++ (launch (launch s [q]).session rest).slots } := by
  simp only [launch]
  cases s.begin q with
  | finished step => simp
  | waiting => simp

theorem slots_launch_singleton (s : Session) (q : Lookup) :
    (launch s [q]).slots = [Start.slot { session := s, lookup := q }] := by
  simp only [launch, Start.slot]
  cases s.begin q <;> rfl

theorem get?_maps_launch_singleton {address : String}
    (hdeployed : Address.isCreation address = false) (s : Session) (q : Lookup) :
    (launch s [q]).session.maps.get? (Address.key address) =
      (lastWritten (Address.key address)
        ([{ session := s, lookup := q }].filter fun st => !st.waits)).or
          (s.maps.get? (Address.key address)) := by
  cases hbegin : s.begin q with
  | finished step =>
      have hwaits : Start.waits { session := s, lookup := q } = false := by
        simp only [Start.waits, Start.slot, hbegin, Slot.isWaiting]
      simp only [launch, hbegin, List.filter_cons, hwaits, Bool.not_false, ↓reduceIte,
        List.filter_nil, lastWritten_singleton]
      exact get?_maps_begin hdeployed hbegin
  | waiting =>
      have hwaits : Start.waits { session := s, lookup := q } = true := by
        simp only [Start.waits, Start.slot, hbegin, Slot.isWaiting]
      simp [launch, hbegin, hwaits]

theorem slots_launch (s : Session) (lookups : List Lookup) :
    (launch s lookups).slots = (starts s lookups).map Start.slot := by
  induction lookups generalizing s with
  | nil => rfl
  | cons q rest ih =>
      rw [launch_cons, starts, List.map_cons, ← ih, slots_launch_singleton]
      rfl

theorem bare_of_mem_starts {lookups : List Lookup} {st : Start} (h : st ∈ starts s lookups) :
    st.session.bare = s.bare := by
  induction lookups generalizing s with
  | nil => cases h
  | cons q rest ih =>
      rcases List.mem_cons.mp h with rfl | h
      · rfl
      · exact (ih h).trans (bare_launch s [q])

/-- The lookups that do not wait write one after another as they begin. -/
theorem get?_maps_launch {address : String} (hdeployed : Address.isCreation address = false)
    (s : Session) (lookups : List Lookup) :
    (launch s lookups).session.maps.get? (Address.key address) =
      (lastWritten (Address.key address) ((starts s lookups).filter fun st => !st.waits)).or
        (s.maps.get? (Address.key address)) := by
  induction lookups generalizing s with
  | nil => rfl
  | cons q rest ih =>
      have hsplit : starts s (q :: rest) =
          [{ session := s, lookup := q }] ++ starts (launch s [q]).session rest := rfl
      rw [launch_cons, hsplit, List.filter_append, lastWritten_append, Option.or_assoc,
        ← get?_maps_launch_singleton hdeployed]
      exact ih _

/-! ## The second stage -/

end Gathering

/-- What is known of a lookup among others: it has answered as alone, or it waits, and began in a
session that was given the same. -/
inductive Start.Due (given : Session) (st : Start) : Slot → Prop
  | finished : Due given st (.finished st.alone)
  | waiting (waits : st.session.begin st.lookup = .waiting) (same : st.session.bare = given) :
      Due given st (.waiting st.lookup)

theorem Start.due_slot {given : Session} {st : Start} (h : st.session.bare = given) :
    st.Due given st.slot := by
  unfold Start.slot
  cases hbegin : st.session.begin st.lookup with
  | finished step =>
      have hanswer : step.answer = st.alone := by
        simp only [Start.alone, Session.locate, hbegin]
      show Due given st (.finished step.answer)
      rw [hanswer]
      exact .finished
  | waiting => exact .waiting hbegin h

namespace Gathering

open Session

/-- Whether lookups that began as given are under way: each has answered as alone or waits, and what
their session was given is what it was. -/
structure Underway (given : Session) (sts : List Start) (g : Gathering) : Prop where
  due : List.Forall₂ (Start.Due given) sts g.slots
  bare : g.session.bare = given

variable {given : Session} {sts : List Start} {g : Gathering}

theorem underway_launch (s : Session) (lookups : List Lookup) :
    Underway s.bare (starts s lookups) (launch s lookups) where
  due := by
    rw [slots_launch, List.forall₂_map_right_iff, List.forall₂_same]
    intro st hst
    exact Start.due_slot (bare_of_mem_starts hst)
  bare := bare_launch s lookups

/-- A lookup that waits resumes as if it were alone. -/
theorem Underway.resumeAt_of_waiting (h : Underway given sts g) {i : Nat} {q : Lookup}
    (hslot : g.slots[i]? = some (.waiting q)) :
    ∃ st, sts[i]? = some st ∧ Underway given sts (g.resumeAt i) ∧
      (g.resumeAt i).slots = g.slots.set i (.finished st.alone) ∧
      ∀ address, Address.isCreation address = false →
        (g.resumeAt i).session.maps.get? (Address.key address) =
          (st.writes (Address.key address)).or (g.session.maps.get? (Address.key address)) := by
  obtain ⟨st, hst, hdue⟩ := forall₂_getElem? h.due hslot
  cases hdue with
  | waiting hwaits hsame =>
      have hsame : st.session.bare = g.session.bare := hsame.trans h.bare.symm
      have hanswer := answer_resume_eq_alone hwaits hsame
      refine ⟨st, hst, ⟨?_, ?_⟩, ?_, ?_⟩
      · simp only [resumeAt, hslot, hanswer]
        apply forall₂_set h.due
        intro st' hst'
        cases Option.some.inj (hst.symm.trans hst')
        exact .finished
      · simp only [resumeAt, hslot]
        exact (confined_resume g.session _).given.trans h.bare
      · simp only [resumeAt, hslot, hanswer]
      · intro address hdeployed
        simp only [resumeAt, hslot]
        exact get?_maps_resume hdeployed hwaits hsame

/-- Whether the lookup number `i` waits. -/
def waitsAt (slots : List Slot) (i : Nat) : Bool :=
  slots[i]?.any Slot.isWaiting

theorem exists_waiting_of_waitsAt {slots : List Slot} {i : Nat} (h : waitsAt slots i = true) :
    ∃ q, slots[i]? = some (.waiting q) := by
  unfold waitsAt at h
  cases hslot : slots[i]? with
  | none =>
      rw [hslot] at h
      cases h
  | some slot =>
      rw [hslot] at h
      cases slot with
      | finished answer => cases h
      | waiting q => exact ⟨q, rfl⟩

theorem resumeAt_of_not_waiting {i : Nat} (h : waitsAt g.slots i = false) : g.resumeAt i = g := by
  unfold resumeAt
  cases hslot : g.slots[i]? with
  | none => rfl
  | some slot =>
      cases slot with
      | finished answer => rfl
      | waiting q =>
          rw [waitsAt, hslot] at h
          cases h

/-- A lookup that has resumed does not wait any more, the others as before. -/
theorem waitsAt_set {slots : List Slot} {i : Nat} {answer : Except Fault Location} (j : Nat) :
    waitsAt (slots.set i (.finished answer)) j = (waitsAt slots j && !j == i) := by
  unfold waitsAt
  rw [List.getElem?_set]
  by_cases hij : i = j
  · subst hij
    by_cases hlt : i < slots.length
    · simp [hlt, Slot.isWaiting]
    · simp [hlt]
  · have hji : (j == i) = false := beq_eq_false_iff_ne.mpr fun h => hij h.symm
    simp [hij, hji]

/-- The lookups that wait, as an order first names them. -/
def resumed (sts : List Start) (slots : List Slot) (order : List Nat) : List Start :=
  (order.filter (waitsAt slots)).eraseDups.filterMap fun i => sts[i]?

/-- **Resuming in an order.**  The lookups that wait write one after another as the order first
names them, and what was under way is. -/
theorem Underway.resumeAll (h : Underway given sts g) (order : List Nat) :
    Underway given sts (order.foldl resumeAt g) ∧
      ∀ address, Address.isCreation address = false →
        (order.foldl resumeAt g).session.maps.get? (Address.key address) =
          (lastWritten (Address.key address) (resumed sts g.slots order)).or
            (g.session.maps.get? (Address.key address)) := by
  induction order generalizing g with
  | nil => exact ⟨h, fun _ _ => rfl⟩
  | cons i order ih =>
      rw [List.foldl_cons]
      cases hwaits : waitsAt g.slots i with
      | false =>
          rw [resumeAt_of_not_waiting hwaits, resumed, List.filter_cons_of_neg (by simp [hwaits])]
          exact ih h
      | true =>
          obtain ⟨q, hslot⟩ := exists_waiting_of_waitsAt hwaits
          obtain ⟨st, hst, hresumed, hslots, hmaps⟩ := h.resumeAt_of_waiting hslot
          obtain ⟨hlast, hlater⟩ := ih hresumed
          -- What is resumed later is what waits now, without the lookup that has just resumed.
          have hothers : resumed sts g.slots (i :: order) =
              st :: resumed sts (g.resumeAt i).slots order := by
            have hfilter : order.filter (waitsAt (g.resumeAt i).slots) =
                (order.filter (waitsAt g.slots)).filter fun j => !j == i := by
              rw [List.filter_filter, hslots]
              apply List.filter_congr
              intro j _
              rw [waitsAt_set, Bool.and_comm]
            rw [resumed, List.filter_cons_of_pos hwaits, List.eraseDups_cons, List.filterMap_cons,
              hst, resumed, hfilter]
          refine ⟨hlast, ?_⟩
          intro address hdeployed
          rw [hlater address hdeployed, hmaps address hdeployed, hothers, lastWritten_cons,
            Option.or_assoc]

/-- Resuming those that are left is resuming all, as they began. -/
theorem finish_eq_foldl (s : Session) (events : List Event) (before slots : List Slot) :
    ∃ after, (List.range' before.length slots.length).foldl resumeAt
        { session := s, events, slots := before ++ slots } =
      { session := (finish s slots).1, events := after
        slots := before ++ (finish s slots).2.2.map .finished } := by
  induction slots generalizing s events before with
  | nil => exact ⟨events, rfl⟩
  | cons slot slots ih =>
      have hslot : (before ++ slot :: slots)[before.length]? = some slot := by
        rw [List.getElem?_append_right (Nat.le_refl _), Nat.sub_self]
        rfl
      rw [List.length_cons, List.range'_succ, List.foldl_cons]
      cases slot with
      | finished answer =>
          have hstep : resumeAt
              { session := s, events, slots := before ++ .finished answer :: slots }
                before.length =
              { session := s, events, slots := (before ++ [.finished answer]) ++ slots } := by
            simp only [resumeAt, hslot, List.append_assoc, List.singleton_append]
          obtain ⟨after, hafter⟩ := ih s events (before ++ [.finished answer])
          rw [List.length_append, List.length_singleton] at hafter
          refine ⟨after, ?_⟩
          rw [hstep, hafter]
          simp [finish]
      | waiting q =>
          have hstep : resumeAt
              { session := s, events, slots := before ++ .waiting q :: slots } before.length =
              { session := (s.resume q).session, events := events ++ (s.resume q).events
                slots := (before ++ [.finished (s.resume q).answer]) ++ slots } := by
            simp only [resumeAt, hslot, List.append_assoc, List.singleton_append]
            simp
          obtain ⟨after, hafter⟩ := ih (s.resume q).session (events ++ (s.resume q).events)
            (before ++ [.finished (s.resume q).answer])
          rw [List.length_append, List.length_singleton] at hafter
          refine ⟨after, ?_⟩
          rw [hstep, hafter]
          simp [finish]

/-! ## Both stages -/

theorem answers_eq_alone {answers : List (Except Fault Location)}
    (h : List.Forall₂ (Start.Due given) sts (answers.map .finished)) :
    answers = sts.map Start.alone := by
  rw [List.forall₂_map_right_iff] at h
  induction h with
  | nil => rfl
  | cons hdue _ ih =>
      cases hdue
      rw [List.map_cons, ← ih]

theorem endings_eq (sts : List Start) (order : List Nat) :
    endings sts order =
      (sts.filter fun st => !st.waits) ++
        resumed sts (sts.map Start.slot) (order ++ List.range sts.length) := by
  have hwaits : waitsAt (sts.map Start.slot) = fun i => sts[i]?.any Start.waits := by
    funext i
    rw [waitsAt, List.getElem?_map]
    cases sts[i]? <;> rfl
  rw [endings, resumed, hwaits]

/-- Side by side is resuming in the order, and then all. -/
theorem gather_eq_foldl (s : Session) (order : List Nat) (lookups : List Lookup) :
    ∃ answers, (s.gather order lookups).answer = .ok answers ∧
      ((order ++ List.range (starts s lookups).length).foldl resumeAt (launch s lookups)).session =
        (s.gather order lookups).session ∧
      ((order ++ List.range (starts s lookups).length).foldl resumeAt (launch s lookups)).slots =
        answers.map .finished := by
  have hordered := ((underway_launch s lookups).resumeAll order).1
  obtain ⟨after, hfinish⟩ := finish_eq_foldl
    (order.foldl resumeAt (launch s lookups)).session
    (order.foldl resumeAt (launch s lookups)).events []
    (order.foldl resumeAt (launch s lookups)).slots
  rw [List.length_nil, ← List.range_eq_range', ← hordered.due.length_eq] at hfinish
  refine ⟨_, rfl, ?_, ?_⟩
  · rw [List.foldl_append]
    exact congrArg Gathering.session hfinish
  · rw [List.foldl_append]
    exact congrArg Gathering.slots hfinish

end Gathering

open Gathering in
/-- **Lookups side by side do not meet.**  Whatever the order in which those that wait resume, each
lookup answers as it would alone in the session in which it began.  The source map kept for an
address afterwards is the one that was brought in by the last lookup of the address that attributed
its code, and it is the one that was kept before if no lookup has done so. -/
theorem Session.gather_eq_alone (s : Session) (order : List Nat) (lookups : List Lookup) :
    (s.gather order lookups).answer = .ok ((starts s lookups).map Start.alone) ∧
      ∀ address, Address.isCreation address = false →
        (s.gather order lookups).session.maps.get? (Address.key address) =
          (lastWritten (Address.key address) (endings (starts s lookups) order)).or
            (s.maps.get? (Address.key address)) := by
  obtain ⟨answers, hanswers, hsession, hslots⟩ := gather_eq_foldl s order lookups
  obtain ⟨hlast, hmaps⟩ := (underway_launch s lookups).resumeAll
    (order ++ List.range (starts s lookups).length)
  constructor
  · have hdue := hlast.due
    rw [hslots] at hdue
    rw [hanswers, answers_eq_alone hdue]
  · intro address hdeployed
    rw [← hsession, hmaps address hdeployed, get?_maps_launch hdeployed, slots_launch, endings_eq,
      lastWritten_append, Option.or_assoc]

namespace Session

namespace Sample

/-- The deployed contract as another catalog has it, with another source map. -/
def rebuilt : Lookup :=
  { address := "0xABC"
    target := .index (.num 1)
    catalog := .catalog { files := [("B.sol", [("Bar",
      { name := "Bar"
        creation := none
        deployed := some
          { object := "6001600201", sourceMap := some "9:1:3:o;8", generatedSources := none
            immutables := [], links := [] } })])] } }

/-- A session that has loaded nothing, on a node that has the codes. -/
def unloaded : Session :=
  Session.prepared (.node (Provider.ofMembers codes).fetch) false steps []

end Sample

/-- Both lookups wait for the node, and the one that begins first resumes last. -/
theorem gather_eq_alone_sample :
    Address.isCreation "0xABC" = false ∧
      (Sample.unloaded.gather [1, 0] [Sample.lookup, Sample.rebuilt]).answer =
        .ok [.ok Sample.location,
          .ok { start := some 8, length := some 1, file := some 3, jump := some "o" }] ∧
      ((Sample.unloaded.gather [1, 0] [Sample.lookup, Sample.rebuilt]).session.maps.get?
        (Address.key "0xABC")).map MatchedMap.map = some (some "0:10:0:-;3:2:0:-;0:5:0:-") := by
  have hdeployed : Address.isCreation "0xABC" = false := by decide +kernel
  have hgather := gather_eq_alone Sample.unloaded [1, 0] [Sample.lookup, Sample.rebuilt]
  refine ⟨hdeployed, ?_, ?_⟩
  · rw [hgather.1]
    decide +kernel
  · rw [hgather.2 "0xABC" hdeployed]
    decide +kernel

end Session

end EvmLocator
