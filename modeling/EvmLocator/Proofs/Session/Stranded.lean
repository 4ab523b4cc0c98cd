import EvmLocator.Proofs.Session.Faithful
import EvmLocator.Proofs.Session.Uncached

/-!
# Source maps that outlive their codes

A lookup by step needs the code of its address twice, to attribute it and to count instructions in
it.  If the source map of the address is kept, the attribution is skipped, and with it the loading
of the code.  The code is then taken to be loaded already.  It was, when the source map was found;
but loading a trace forgets the codes and keeps the source maps.

An address is stranded if its source map is kept and its code is not.  Lookups by step of a
stranded address fail, and since they load nothing, they go on to fail until the code is asked for
by itself or the source maps are forgotten.  Lookups by index do not look at the code, so they
answer as before.

## Main results

* `answer_locate_eq_notLoaded_iff`: on any session, when a lookup reports that a code is not loaded.
* `stranded_apply_iff`: which operations strand an address, and which leave it stranded.
* `answer_run_eq_notLoaded_iff`: after ordinary operations, when a lookup reports that a code is not
  loaded.
-/

namespace EvmLocator

/-! ## Lookups that find the code loaded -/

theorem indexOfStep_ne_notLoaded {steps : List Json} {address : String} {step : Integer}
    {code : LoadedCode} {a : String} :
    indexOfStep steps address step code ≠ .error (.trace (.notLoaded a)) := by
  intro h
  cases ofStep_of_indexOfStep h with
  | trace loaded => exact loaded a rfl

theorem Fault.ofMap_ne_notLoaded {e : SourceMap.Error} {a : String} :
    ofMap e ≠ .trace (.notLoaded a) := by
  intro h
  cases e <;> cases h

theorem MatchedMap.locationAt_ne_notLoaded {m : MatchedMap} {index : Integer} {a : String} :
    m.locationAt index ≠ .error (.trace (.notLoaded a)) := by
  intro h
  unfold locationAt at h
  split at h
  · cases h
  · split at h
    · cases h
    · exact Fault.ofMap_ne_notLoaded (Except.error.inj h)

theorem LoadedCode.ofJson_ne_notLoaded {address : String} {code : Json} {a : String} :
    ofJson address code ≠ .error (.trace (.notLoaded a)) := by
  intro h
  unfold ofJson ofText at h
  split at h
  · simp only at h
    split at h
    · cases h
    · split at h
      · cases h
      · cases h
  · cases h

namespace Lookup

variable {q : Lookup} {steps : List Json} {code : LoadedCode} {a : String}

theorem locationIn_ne_notLoaded {m : MatchedMap} :
    q.locationIn steps code m ≠ .error (.trace (.notLoaded a)) := by
  intro h
  unfold locationIn at h
  split at h
  · exact MatchedMap.locationAt_ne_notLoaded h
  · split at h
    · next hindex =>
        cases h
        exact indexOfStep_ne_notLoaded hindex
    · exact MatchedMap.locationAt_ne_notLoaded h

theorem answerFrom_ne_notLoaded : q.answerFrom steps code ≠ .error (.trace (.notLoaded a)) := by
  intro h
  unfold answerFrom at h
  split at h
  · cases h
  · split at h
    · cases h
    · exact locationIn_ne_notLoaded h

end Lookup

namespace Session

variable {s s' : Session} {q : Lookup} {a : String}

theorem uncached_ne_notLoaded : s.uncached q ≠ .error (.trace (.notLoaded a)) := by
  intro h
  unfold uncached at h
  split at h
  · cases h
  · split at h
    · next hreads =>
        cases h
        exact LoadedCode.ofJson_ne_notLoaded hreads
    · exact Lookup.answerFrom_ne_notLoaded h

/-- Without its source map, a lookup looks for the code before anything else. -/
theorem answer_locate_of_no_map (h : s.maps.get? (Address.key q.address) = none) :
    (s.locate q).answer = s.uncached q ∨
      ∃ loaded, (s.locate q).answer = q.answerFrom s.trace loaded := by
  cases horigin : s.codeOrigin q.address with
  | loaded loaded =>
      have hloaded := (codeOrigin_eq_loaded_iff.mp horigin).2
      refine Or.inr ⟨loaded, ?_⟩
      simp only [locate, begin, h, horigin, answer_complete hloaded]
  | registered code =>
      have hserved := served_of_registered (registered_of_codeOrigin horigin)
      refine Or.inl ?_
      simp only [locate, begin, h, horigin, answer_complete_kept hserved]
  | provider =>
      have hnone := registered_of_codeOrigin_provider horigin
      refine Or.inl ?_
      simp only [locate, begin, h, horigin, answer_resume_eq_uncached hnone]

/-! ## Stranded addresses -/

/-- Whether a session keeps the source map of an address and not its code. -/
structure Stranded (s : Session) (address : String) : Prop where
  map : ∃ m, s.maps.get? (Address.key address) = some m
  code : s.codes.get? (Address.key address) = none

theorem answer_eq_notLoaded_iff {m : MatchedMap} :
    s.answer q m = .error (.trace (.notLoaded a)) ↔
      a = q.address ∧ (∃ step, q.target = .step step) ∧
        s.codes.get? (Address.key q.address) = none := by
  cases hcode : s.codes.get? (Address.key q.address) with
  | some loaded =>
      rw [answer_eq_locationIn hcode]
      constructor
      · intro h
        exact absurd h Lookup.locationIn_ne_notLoaded
      · rintro ⟨-, -, hnone⟩
        cases hnone
  | none =>
      cases htarget : q.target with
      | index index =>
          rw [answer_of_index htarget]
          constructor
          · intro h
            exact absurd h MatchedMap.locationAt_ne_notLoaded
          · rintro ⟨-, ⟨step, hstep⟩, -⟩
            cases hstep
      | step step =>
          have hindex : s.instructionIndex q.address step =
              .error (.trace (.notLoaded q.address)) := by rw [instructionIndex, hcode]
          rw [answer_of_step htarget, hindex]
          constructor
          · intro h
            cases h
            exact ⟨rfl, ⟨step, rfl⟩, rfl⟩
          · rintro ⟨rfl, -, -⟩
            rfl

/-- **When a lookup reports that a code is not loaded.**  It does so for its own address,
and exactly if it is by step and the address is stranded. -/
theorem answer_locate_eq_notLoaded_iff (s : Session) (q : Lookup) (a : String) :
    (s.locate q).answer = .error (.trace (.notLoaded a)) ↔
      a = q.address ∧ (∃ step, q.target = .step step) ∧ s.Stranded q.address := by
  cases hmap : s.maps.get? (Address.key q.address) with
  | some m =>
      have hanswer : (s.locate q).answer = s.answer q m := by simp only [locate, begin, hmap]
      rw [hanswer, answer_eq_notLoaded_iff]
      constructor
      · rintro ⟨ha, htarget, hcode⟩
        exact ⟨ha, htarget, ⟨m, hmap⟩, hcode⟩
      · rintro ⟨ha, htarget, hstranded⟩
        exact ⟨ha, htarget, hstranded.code⟩
  | none =>
      constructor
      · intro h
        rcases answer_locate_of_no_map hmap with hanswer | ⟨loaded, hanswer⟩
        · rw [hanswer] at h
          exact absurd h uncached_ne_notLoaded
        · rw [hanswer] at h
          exact absurd h Lookup.answerFrom_ne_notLoaded
      · rintro ⟨-, -, hstranded⟩
        obtain ⟨m, hm⟩ := hstranded.map
        rw [hmap] at hm
        cases hm

end Session

/-! ## What strands an address -/

/-- Whether an operation loads the code of an address for its own sake or forgets its source map. -/
def Operation.restores (address : String) : Operation → Bool
  | .getCode other => Address.key other == Address.key address
  | .clearCache => true
  | _ => false

namespace Session

section

variable {s s' : Session} {op : Operation} {address : String}

theorem Stranded.move (h : s.Stranded address)
    (hothers : ∀ other ∈ op.addresses, Address.key other ≠ Address.key address)
    (hop : op ≠ .clearCache) (hmove : Moves op s s') : s'.Stranded address := by
  obtain ⟨m, hm⟩ := h.map
  cases hmove with
  | load asked served reads =>
      exact ⟨h.map, (Table.get?_put_of_ne (hothers _ asked) _ s.codes).trans h.code⟩
  | keepMap asked deployed loaded resolves found =>
      have hother := hothers _ (Operation.address_mem_addresses asked)
      exact ⟨⟨m, (Table.get?_put_of_ne hother _ s.maps).trans hm⟩, h.code⟩
  | identify asked deployed =>
      refine ⟨?_, h.code⟩
      rw [Table.get?_put]
      split
      · exact ⟨_, rfl⟩
      · exact h.map
  | loadTrace asked reads => exact ⟨h.map, rfl⟩
  | @register token code asked =>
      refine ⟨h.map, ?_⟩
      by_cases hsame : token = Address.key address
      · rw [hsame]
        exact Table.get?_erase_self _ s.codes
      · exact (Table.get?_erase_of_ne hsame s.codes).trans h.code
  | record asked => exact ⟨h.map, h.code⟩
  | clearCache asked => exact absurd asked hop

/-- A lookup of another address leaves a stranded address stranded. -/
theorem Stranded.evolves_locate (h : s.Stranded address) {q : Lookup}
    (hkey : Address.key q.address ≠ Address.key address) (he : Evolves (.locate q) s s') :
    s'.Stranded address := by
  have hothers : ∀ other ∈ (Operation.locate q).addresses,
      Address.key other ≠ Address.key address := by
    intro other hother
    rw [List.mem_singleton.mp hother]
    exact hkey
  induction he with
  | refl => exact h
  | tail _ hmove ih => exact ih.move hothers nofun hmove

/-- A lookup of a stranded address answers at once and changes nothing. -/
theorem Stranded.begin_eq (h : s.Stranded address) {q : Lookup}
    (hkey : Address.key q.address = Address.key address) :
    ∃ answer, s.begin q = .finished { answer, session := s } := by
  obtain ⟨m, hm⟩ := h.map
  rw [← hkey] at hm
  exact ⟨s.answer q m, by rw [begin, hm]⟩

/-- The first part of a lookup leaves a stranded address stranded. -/
theorem Stranded.begin (h : s.Stranded address) {q : Lookup} {step : Step Location}
    (hbegin : s.begin q = .finished step) : step.session.Stranded address := by
  by_cases hkey : Address.key q.address = Address.key address
  · obtain ⟨answer, hanswer⟩ := h.begin_eq hkey
    rw [hanswer] at hbegin
    cases hbegin
    exact h
  · exact h.evolves_locate hkey (evolves_begin List.mem_cons_self hbegin)

/-- A lookup that has waited is not one of a stranded address. -/
theorem Stranded.resume (h : s.Stranded address) {q : Lookup}
    (hkey : Address.key q.address ≠ Address.key address)
    (hnone : s.registered.get? q.address = none) : (s.resume q).session.Stranded address :=
  h.evolves_locate hkey (evolves_resume List.mem_cons_self hnone)

theorem Stranded.key_ne_of_waiting (h : s.Stranded address) {q : Lookup}
    (hbegin : s.begin q = .waiting) : Address.key q.address ≠ Address.key address := by
  intro hkey
  obtain ⟨answer, hanswer⟩ := h.begin_eq hkey
  rw [hanswer] at hbegin
  cases hbegin

theorem Stranded.locate (h : s.Stranded address) (q : Lookup) :
    (s.locate q).session.Stranded address := by
  unfold Session.locate
  cases hbegin : s.begin q with
  | finished step => exact h.begin hbegin
  | waiting => exact h.resume (h.key_ne_of_waiting hbegin) (registered_of_begin hbegin)

theorem Stranded.gather (h : s.Stranded address) (order : List Nat) (lookups : List Lookup) :
    (s.gather order lookups).session.Stranded address := by
  have rules : Gathering.Rules (fun _ => True)
      (fun s' => s'.Stranded address ∧ s'.registered = s.registered)
      (fun q => Address.key q.address ≠ Address.key address ∧
        s.registered.get? q.address = none)
      (fun _ _ => True) :=
    { finishes := by
        intro s' q step _ hs hbegin
        have hevolves : Evolves (.locate q) s' step.session :=
          evolves_begin List.mem_cons_self hbegin
        exact ⟨trivial, hs.1.begin hbegin, (hevolves.registered_eq rfl).trans hs.2⟩
      waits := by
        intro s' q _ hs hbegin
        have hnone := registered_of_begin hbegin
        rw [hs.2] at hnone
        exact ⟨hs.1.key_ne_of_waiting hbegin, hnone⟩
      resumes := by
        intro s' q hs hwaits
        obtain ⟨hkey, hnone⟩ := hwaits
        rw [← hs.2] at hnone
        have hevolves : Evolves (.locate q) s' (s'.resume q).session :=
          evolves_resume List.mem_cons_self hnone
        exact ⟨trivial, hs.1.resume hkey hnone, (hevolves.registered_eq rfl).trans hs.2⟩ }
  obtain ⟨answers, -, -, hlast⟩ :=
    gather_induction rules order (fun q _ => trivial) ⟨h, rfl⟩
  exact hlast.1

/-- An operation that does not restore an address leaves it stranded. -/
theorem Stranded.apply (h : s.Stranded address) (hop : op.restores address = false) :
    (s.apply op).session.Stranded address := by
  cases op with
  | locate q => exact h.locate q
  | gather order lookups => exact h.gather order lookups
  | getCode other =>
      have hothers : ∀ asked ∈ (Operation.getCode other).addresses,
          Address.key asked ≠ Address.key address := by
        intro asked hasked
        rw [List.mem_singleton.mp hasked]
        exact ne_of_beq_false hop
      exact apply_induction (P := (Stranded · address))
        (fun _ _ hmove hs => hs.move hothers nofun hmove) h
  | clearCache => cases hop
  | _ =>
      exact apply_induction (P := (Stranded · address))
        (fun _ _ hmove hs => hs.move (by nofun) (by nofun) hmove) h

/-- Of the ordinary operations only the loading of a trace strands an address. -/
theorem Stranded.of_move (h : s'.Stranded address)
    (hdeployed : Address.isCreation address = false) (hordinary : op.isOrdinary = true)
    (htrace : ∀ trace, op ≠ .loadTrace trace) (hmove : Moves op s s') : s.Stranded address := by
  obtain ⟨m, hm⟩ := h.map
  cases hmove with
  | load asked served reads =>
      refine ⟨h.map, ?_⟩
      have hcode := h.code
      rw [Table.get?_put] at hcode
      split at hcode
      · cases hcode
      · exact hcode
  | keepMap asked deployed loaded resolves found =>
      refine ⟨?_, h.code⟩
      rw [Table.get?_put] at hm
      split at hm
      · next hkey =>
          have hcode : s.codes.get? (Address.key address) = none := h.code
          rw [← eq_of_beq hkey, loaded] at hcode
          cases hcode
      · exact ⟨m, hm⟩
  | identify asked deployed =>
      rw [asked] at hordinary
      cases hordinary
  | loadTrace asked reads => exact absurd asked (htrace _)
  | register asked =>
      rw [asked] at hordinary
      exact ⟨h.map, (codes_register hordinary _ hdeployed).symm.trans h.code⟩
  | record asked =>
      rw [asked] at hordinary
      cases hordinary
  | clearCache asked => cases hm

theorem Stranded.of_apply (h : (s.apply op).session.Stranded address)
    (hdeployed : Address.isCreation address = false) (hordinary : op.isOrdinary = true)
    (htrace : ∀ trace, op ≠ .loadTrace trace) : s.Stranded address := by
  by_contra hnot
  have hafter : ¬ (s.apply op).session.Stranded address :=
    apply_induction (P := fun s => ¬ s.Stranded address)
      (fun _ _ hmove hs hs' => hs (hs'.of_move hdeployed hordinary htrace hmove)) hnot
  exact hafter h

/-- Asking for the code of a stranded address loads it. -/
theorem Stranded.codes_getCode (h : s.Stranded address) (hs : s.Faithful) {other : String}
    (hkey : Address.key other = Address.key address) :
    ∃ loaded, (s.getCode other).session.codes.get? (Address.key address) = some loaded := by
  obtain ⟨m, hm⟩ := h.map
  rw [← hkey] at hm
  obtain ⟨hdeployed, code, loaded, hfetch, hreads⟩ := hs.map other m hm
  have horigin : s.codeOrigin other = .provider := by
    simp only [codeOrigin, hdeployed, hkey, h.code, hs.registered_eq_none hdeployed,
      Bool.false_eq_true, ↓reduceIte]
  have hkept : (s.fetch other).1 = .ok loaded := by simp only [fetch, hfetch, keep, hreads]
  have hloaded := codes_fetch hkept
  rw [hkey] at hloaded
  refine ⟨loaded, ?_⟩
  simp only [getCode, horigin]
  exact hloaded

theorem not_stranded_of_restores (hs : s.Faithful) (hdeployed : Address.isCreation address = false)
    (hop : op.restores address = true) : ¬ (s.apply op).session.Stranded address := by
  intro h
  cases op with
  | getCode other =>
      have hbefore : s.Stranded address := h.of_apply hdeployed rfl nofun
      obtain ⟨loaded, hloaded⟩ := hbefore.codes_getCode hs (eq_of_beq hop)
      have hcode := h.code
      rw [show (s.apply (.getCode other)).session = (s.getCode other).session from rfl,
        hloaded] at hcode
      cases hcode
  | clearCache =>
      obtain ⟨m, hm⟩ := h.map
      cases hm
  | _ => cases hop

/-- **What strands an address.**  After an ordinary operation an address is stranded exactly if the
operation has loaded a trace while the source map of the address was kept, or if the address was
stranded before and the operation has not restored it. -/
theorem stranded_apply_iff (hs : s.Faithful) (hordinary : op.isOrdinary = true) :
    (s.apply op).session.Stranded address ↔
      (∃ trace steps m, op = .loadTrace trace ∧ Trace.stepsOf trace = .ok steps ∧
        s.maps.get? (Address.key address) = some m) ∨
      s.Stranded address ∧ op.restores address = false := by
  constructor
  · intro h
    obtain ⟨m, hm⟩ := h.map
    have hdeployed := ((hs.apply hordinary).map address m hm).1
    by_cases htrace : ∃ trace, op = .loadTrace trace
    · obtain ⟨trace, rfl⟩ := htrace
      cases hsteps : Trace.stepsOf trace with
      | ok steps =>
          simp only [apply, loadTrace, hsteps] at hm
          exact Or.inl ⟨trace, steps, m, rfl, hsteps, hm⟩
      | error f =>
          simp only [apply, loadTrace, hsteps] at h
          exact Or.inr ⟨h, rfl⟩
    · have hbefore : s.Stranded address :=
        h.of_apply hdeployed hordinary fun trace hop => htrace ⟨trace, hop⟩
      refine Or.inr ⟨hbefore, ?_⟩
      rw [← Bool.not_eq_true]
      intro hrestores
      exact not_stranded_of_restores hs hdeployed hrestores h
  · rintro (⟨trace, steps, m, rfl, hsteps, hm⟩ | ⟨h, hrestores⟩)
    · simp only [apply, loadTrace, hsteps]
      exact ⟨⟨m, hm⟩, rfl⟩
    · exact h.apply hrestores

/-! ## Runs -/

/-- When operations leave an address stranded: they find its source map, load a trace, and do not
restore the address any more. -/
inductive Strands (s : Session) (address : String) : List Operation → Prop
  | intro {before after : List Operation} {trace : Json} {steps : List Json} {m : MatchedMap}
      (kept : (s.run before).maps.get? (Address.key address) = some m)
      (reads : Trace.stepsOf trace = .ok steps)
      (idle : ∀ op ∈ after, op.restores address = false) :
      Strands s address (before ++ .loadTrace trace :: after)

theorem strands_cons_iff {ops : List Operation} :
    s.Strands address (op :: ops) ↔
      (∃ trace steps m, op = .loadTrace trace ∧ Trace.stepsOf trace = .ok steps ∧
        s.maps.get? (Address.key address) = some m) ∧ (∀ op ∈ ops, op.restores address = false) ∨
      (s.apply op).session.Strands address ops := by
  constructor
  · intro h
    generalize hall : op :: ops = all at h
    cases h with
    | @intro before after trace steps m kept reads idle =>
        cases before with
        | nil =>
            cases hall
            exact Or.inl ⟨⟨trace, steps, m, rfl, reads, kept⟩, idle⟩
        | cons first before =>
            cases hall
            exact Or.inr (.intro kept reads idle)
  · rintro (⟨⟨trace, steps, m, rfl, hreads, hkept⟩, hidle⟩ | h)
    · show s.Strands address ([] ++ .loadTrace trace :: ops)
      exact .intro hkept hreads hidle
    · cases h with
      | @intro before after trace steps m kept reads idle =>
          show s.Strands address ((op :: before) ++ .loadTrace trace :: after)
          exact .intro kept reads idle

/-- After ordinary operations an address is stranded exactly if they have stranded it, or if it was
stranded before and none has restored it. -/
theorem stranded_run_iff (hs : s.Faithful) {ops : List Operation}
    (hops : ∀ op ∈ ops, op.isOrdinary = true) :
    (s.run ops).Stranded address ↔
      s.Strands address ops ∨
      s.Stranded address ∧ ∀ op ∈ ops, op.restores address = false := by
  induction ops generalizing s with
  | nil =>
      constructor
      · intro h
        exact Or.inr ⟨h, nofun⟩
      · rintro (h | h)
        · generalize hall : ([] : List Operation) = all at h
          cases h with
          | @intro before => cases before <;> cases hall
        · exact h.1
  | cons op ops ih =>
      have hordinary := hops op List.mem_cons_self
      have hrest := ih (hs.apply hordinary) fun op' hop' => hops op' (List.mem_cons_of_mem _ hop')
      rw [run_cons, hrest, stranded_apply_iff hs hordinary, strands_cons_iff, List.forall_mem_cons,
        or_and_right, and_assoc, or_left_comm, or_assoc]

/-- **When a lookup after ordinary operations reports that a code is not loaded.**  Take a new
session of recorded codes and ordinary operations on it.  A lookup after them reports that a code is
not loaded exactly if it is by step and the operations strand its address: they find its source map,
load a trace, and neither ask for the code nor forget the source maps any more. -/
theorem answer_run_eq_notLoaded_iff (codes : List (String × Json)) (debug : Bool)
    (ops : List Operation) (hops : ∀ op ∈ ops, op.isOrdinary = true) (q : Lookup) (a : String) :
    (((Session.fresh (Provider.ofMembers codes) debug).run ops).locate q).answer =
        .error (.trace (.notLoaded a)) ↔
      a = q.address ∧ (∃ step, q.target = .step step) ∧
        (Session.fresh (Provider.ofMembers codes) debug).Strands q.address ops := by
  have hfresh : (Session.fresh (Provider.ofMembers codes) debug).Faithful :=
    faithful_fresh (Provider.caseBlind_recorded _) debug []
  have hnot : ¬ (Session.fresh (Provider.ofMembers codes) debug).Stranded q.address := by
    intro h
    obtain ⟨m, hm⟩ := h.map
    cases hm
  rw [answer_locate_eq_notLoaded_iff, stranded_run_iff hfresh hops]
  simp only [hnot, false_and, or_false]

end

namespace Sample

def trace : Json := .arr steps

/-- A lookup between two traces. -/
def retraced : List Operation :=
  [.loadTrace trace, .locate lookup, .loadTrace trace]

end Sample

theorem answer_run_eq_notLoaded_iff_sample :
    (∀ op ∈ Sample.retraced, op.isOrdinary = true) ∧
      (((Session.fresh (Provider.ofMembers Sample.codes) false).run Sample.retraced).locate
        Sample.lookup).answer = .error (.trace (.notLoaded "0xabc")) := by
  have hops : ∀ op ∈ Sample.retraced, op.isOrdinary = true := by decide
  refine ⟨hops, ?_⟩
  rw [answer_run_eq_notLoaded_iff Sample.codes false Sample.retraced hops]
  refine ⟨rfl, ⟨.num 2, rfl⟩, ?_⟩
  have hkept : (((Session.fresh (Provider.ofMembers Sample.codes) false).run
      [.loadTrace Sample.trace, .locate Sample.lookup]).maps.get? (Address.key "0xabc")).isSome =
        true := by decide +kernel
  obtain ⟨m, hm⟩ := Option.isSome_iff_exists.mp hkept
  show Strands _ "0xabc"
    ([.loadTrace Sample.trace, .locate Sample.lookup] ++ .loadTrace Sample.trace :: [])
  exact .intro hm rfl nofun

/-- A lookup by step answers, and answers no more once a trace is loaded again, while the provider
still serves the code. -/
theorem loaded_again_not_loaded :
    (((Session.fresh (Provider.ofMembers Sample.codes) false).run
        [.loadTrace Sample.trace]).locate Sample.lookup).answer = .ok Sample.location ∧
      (((Session.fresh (Provider.ofMembers Sample.codes) false).run Sample.retraced).locate
        Sample.lookup).answer = .error (.trace (.notLoaded "0xabc")) := by
  decide +kernel

end Session

end EvmLocator
