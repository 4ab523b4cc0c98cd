import EvmLocator.Proofs.Session.Counting
import EvmLocator.Proofs.Session.Moves

/-!
# Lookups where nothing is kept

A lookup on a session that has kept nothing takes the code that the session serves, reads it,
attributes it to a contract of the catalog, and reads the location off the contract's source map.
`uncached` is this as one function of the provider, the registrations and the trace: it looks at no
table that lookups fill.

A lookup on any session answers the same if what the session has kept for the address is what it
would find again (`Keeps`).  Keeping nothing is the simplest case of that.  A lookup that has
waited for the provider answers the same in any case, since it uses the code that it has just
loaded and the artifact that it has just found.

## Main results

* `answer_locate_eq_uncached`: what a lookup answers if what is kept is what it would find.
* `answer_resume_eq_uncached`: what a lookup answers that has waited.
* `answer_locate_bare`: what a lookup answers where nothing is kept.
-/

namespace EvmLocator

/-- The location of the instruction with a given index in a source map. -/
def MatchedMap.locationAt (m : MatchedMap) (index : Integer) : Except Fault Location :=
  match m.map with
  | none => .error (.sourceMap (.notText Json.null.kindWord))
  | some map => match SourceMap.atIndex index map.toList with
    | .ok location => .ok location
    | .error e => .error (.ofMap e)

namespace Lookup

/-- The location that a lookup finds in a source map, where its address runs a given code. -/
def locationIn (q : Lookup) (steps : List Json) (code : LoadedCode) (m : MatchedMap) :
    Except Fault Location :=
  match q.target with
  | .index index => m.locationAt index
  | .step step => match indexOfStep steps q.address step code with
    | .error f => .error f
    | .ok index => m.locationAt (.num index)

/-- What a lookup answers once the code of its address is loaded. -/
def answerFrom (q : Lookup) (steps : List Json) (code : LoadedCode) : Except Fault Location :=
  match q.catalog.resolve with
  | .error e => .error (.catalog e)
  | .ok catalog => match (Session.findMap q.address code.bytecode catalog).1 with
    | none => .error (.noSourceMap q.address)
    | some m => q.locationIn steps code m

end Lookup

namespace Session

/-- What a lookup answers on a session that has kept nothing. -/
def uncached (s : Session) (q : Lookup) : Except Fault Location :=
  match s.served q.address with
  | .error r => .error (.fetch q.address (.refused r))
  | .ok code => match LoadedCode.ofJson q.address code with
    | .error f => .error f
    | .ok loaded => q.answerFrom s.trace loaded

variable {s : Session} {q : Lookup} {loaded : LoadedCode}

@[simp] theorem uncached_bare (s : Session) (q : Lookup) : s.bare.uncached q = s.uncached q := rfl

/-! ## The end of a lookup -/

theorem answer_of_index {index : Integer} (h : q.target = .index index) (m : MatchedMap) :
    s.answer q m = m.locationAt index := by
  simp only [answer, h, MatchedMap.locationAt]
  cases m.map with
  | none => rfl
  | some map => rfl

theorem answer_of_step {step : Integer} (h : q.target = .step step) (m : MatchedMap) :
    s.answer q m =
      match s.instructionIndex q.address step with
      | .error f => .error f
      | .ok index => m.locationAt (.num index) := by
  simp only [answer, h]
  cases s.instructionIndex q.address step with
  | error f => rfl
  | ok index =>
      simp only [Except.map, MatchedMap.locationAt]
      cases m.map with
      | none => rfl
      | some map => rfl

/-- With its source map known, a lookup reads the location off, by the code that is loaded. -/
theorem answer_eq_locationIn (h : s.codes.get? (Address.key q.address) = some loaded)
    (m : MatchedMap) : s.answer q m = q.locationIn s.trace loaded m := by
  unfold Lookup.locationIn
  cases htarget : q.target with
  | index index => rw [answer_of_index htarget]
  | step step => rw [answer_of_step htarget, instructionIndex_eq_indexOfStep h]

theorem answer_complete (h : s.codes.get? (Address.key q.address) = some loaded) :
    (s.complete q (.ok loaded)).answer = q.answerFrom s.trace loaded := by
  simp only [complete, Session.identify, Lookup.answerFrom]
  cases q.catalog.resolve with
  | error e => rfl
  | ok catalog =>
      simp only
      cases findMap q.address loaded.bytecode catalog with
      | mk found events =>
          cases found with
          | none => rfl
          | some m => exact answer_eq_locationIn (s := { s with maps := _ }) h m

theorem fst_keep (s : Session) (address : String) (code : Json) :
    (s.keep address code).1 = LoadedCode.ofJson address code := by
  unfold keep
  cases LoadedCode.ofJson address code <;> rfl

/-- What a session makes of the provider's code depends on nothing that it has kept. -/
theorem fst_fetch {s₁ s₂ : Session} {address : String}
    (h : s₁.provider.fetch address = s₂.provider.fetch address) :
    (s₁.fetch address).1 = (s₂.fetch address).1 := by
  unfold fetch
  rw [h]
  cases s₂.provider.fetch address with
  | error r => rfl
  | ok code => simp only [fst_keep]

theorem trace_keep (s : Session) (address : String) (code : Json) :
    (s.keep address code).2.trace = s.trace := by
  unfold keep
  cases LoadedCode.ofJson address code <;> rfl

theorem answer_complete_kept {code : Json} (hserved : s.served q.address = .ok code) :
    ((s.keep q.address code).2.complete q (s.keep q.address code).1).answer = s.uncached q := by
  rw [uncached, hserved]
  cases hreads : LoadedCode.ofJson q.address code with
  | error f =>
      have hkept : (s.keep q.address code).1 = .error f := by rw [keep, hreads]
      simp only [hkept, hreads]
      rfl
  | ok loaded =>
      have hkept : (s.keep q.address code).1 = .ok loaded := by rw [keep, hreads]
      simp only [hreads]
      rw [hkept, answer_complete (codes_keep hkept), trace_keep]

/-- A lookup that has waited answers as if nothing were kept. -/
theorem answer_resume_eq_uncached (h : s.registered.get? q.address = none) :
    (s.resume q).answer = s.uncached q := by
  have hserved := served_of_not_registered h
  unfold resume fetch
  cases hfetch : s.provider.fetch q.address with
  | error r =>
      rw [hfetch] at hserved
      rw [uncached, hserved]
      rfl
  | ok code =>
      rw [hfetch] at hserved
      exact answer_complete_kept hserved

/-! ## Sessions that keep what lookups would find -/

/-- Whether what a session has kept for the address of a lookup is what the lookup would find. -/
structure Keeps (s : Session) (q : Lookup) : Prop where
  code : ∀ loaded, Address.isCreation q.address = false →
    s.codes.get? (Address.key q.address) = some loaded →
      ∃ code, s.served q.address = .ok code ∧ LoadedCode.ofJson q.address code = .ok loaded
  map : ∀ m, s.maps.get? (Address.key q.address) = some m →
    ∃ code loaded catalog, s.served q.address = .ok code ∧
      LoadedCode.ofJson q.address code = .ok loaded ∧
      s.codes.get? (Address.key q.address) = some loaded ∧
      q.catalog.resolve = .ok catalog ∧ (findMap q.address loaded.bytecode catalog).1 = some m

theorem answer_begin_eq_uncached {step : Step Location} (h : s.Keeps q)
    (hbegin : s.begin q = .finished step) : step.answer = s.uncached q := by
  unfold begin at hbegin
  cases hmap : s.maps.get? (Address.key q.address) with
  | some m =>
      rw [hmap] at hbegin
      cases hbegin
      obtain ⟨code, loaded, catalog, hserved, hreads, hloaded, hresolve, hfound⟩ := h.map m hmap
      show s.answer q m = s.uncached q
      rw [answer_eq_locationIn hloaded, uncached, hserved]
      simp only [hreads, Lookup.answerFrom, hresolve, hfound]
  | none =>
      simp only [hmap] at hbegin
      cases horigin : s.codeOrigin q.address with
      | loaded loaded =>
          simp only [horigin] at hbegin
          cases hbegin
          obtain ⟨hdeployed, hloaded⟩ := codeOrigin_eq_loaded_iff.mp horigin
          obtain ⟨code, hserved, hreads⟩ := h.code loaded hdeployed hloaded
          rw [answer_complete hloaded, uncached, hserved]
          simp only [hreads]
      | registered code =>
          simp only [horigin] at hbegin
          cases hbegin
          exact answer_complete_kept (served_of_registered (registered_of_codeOrigin horigin))
      | provider =>
          simp only [horigin] at hbegin
          cases hbegin

/-- A lookup answers as if nothing were kept, if what is kept is what it would find. -/
theorem answer_locate_eq_uncached (h : s.Keeps q) : (s.locate q).answer = s.uncached q := by
  unfold locate
  cases hbegin : s.begin q with
  | finished step => exact answer_begin_eq_uncached h hbegin
  | waiting => exact answer_resume_eq_uncached (registered_of_begin hbegin)

theorem keeps_bare (s : Session) (q : Lookup) : s.bare.Keeps q where
  code := fun loaded _ h => by cases h
  map := fun m h => by cases h

/-- A lookup where nothing is kept. -/
theorem answer_locate_bare (s : Session) (q : Lookup) :
    (s.bare.locate q).answer = s.uncached q := by
  rw [answer_locate_eq_uncached (keeps_bare s q), uncached_bare]

end Session

end EvmLocator
