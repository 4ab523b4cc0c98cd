import EvmLocator.Proofs.Session.Moves

/-!
# The stages of a lookup

A lookup whose source map is kept answers from it and touches nothing.  Any other lookup gets the
code of its address and goes on from what it has got (`locate_of_map`, `locate_of_no_map`).  From
there it can end in four ways: there is no code, there is no catalog, no contract matches, or a
contract matches and the lookup answers from its source map.  `Completion` lists the four with the
session and the events that each leaves, so that a property of lookups is shown end by end.

A stage that fails writes nothing, and reading a source map is a stage of its own, after the one
that keeps it.  Whatever its end, a lookup writes under the key of its own address and nowhere else
(`Confined`).

## Main results

* `completion`: the ways in which a lookup ends once it has asked for the code of its address.
* `session_getCode_of_error`: a code that cannot be had changes nothing.
* `confined_locate`: a lookup writes under the key of its address only.
-/

namespace EvmLocator.Session

variable {s s' s'' : Session} {q : Lookup} {address : String} {addresses : List String}

/-! ## Getting the code -/

theorem maps_keep (s : Session) (address : String) (code : Json) :
    (s.keep address code).2.maps = s.maps := by
  unfold keep
  cases LoadedCode.ofJson address code <;> rfl

theorem maps_fetch (s : Session) (address : String) : (s.fetch address).2.maps = s.maps := by
  unfold fetch
  cases s.provider.fetch address with
  | error r => rfl
  | ok code => exact maps_keep s address code

theorem maps_getCode (s : Session) (address : String) :
    (s.getCode address).session.maps = s.maps := by
  unfold getCode
  cases s.codeOrigin address with
  | loaded code => rfl
  | registered code => exact maps_keep s address code
  | provider => exact maps_fetch s address

theorem snd_keep_of_error {code : Json} {f : Fault} (h : (s.keep address code).1 = .error f) :
    (s.keep address code).2 = s := by
  unfold keep at h ⊢
  cases hreads : LoadedCode.ofJson address code with
  | error g => rfl
  | ok loaded =>
      rw [hreads] at h
      cases h

theorem snd_fetch_of_error {f : Fault} (h : (s.fetch address).1 = .error f) :
    (s.fetch address).2 = s := by
  unfold fetch at h ⊢
  cases hfetch : s.provider.fetch address with
  | error r => rfl
  | ok code =>
      rw [hfetch] at h
      exact snd_keep_of_error h

/-- A code that cannot be had changes nothing. -/
theorem session_getCode_of_error {f : Fault} (h : (s.getCode address).answer = .error f) :
    (s.getCode address).session = s := by
  unfold getCode at h ⊢
  cases horigin : s.codeOrigin address with
  | loaded code => rfl
  | registered code =>
      rw [horigin] at h
      exact snd_keep_of_error h
  | provider =>
      rw [horigin] at h
      exact snd_fetch_of_error h

/-! ## Going on from the code -/

/-- How a lookup ends once the code of its address is had, or cannot be. -/
inductive Completion (s : Session) (q : Lookup) : Except Fault LoadedCode → Step Location → Prop
  | noCode (f : Fault) : Completion s q (.error f) { answer := .error f, session := s }
  | noCatalog {code : LoadedCode} {e : SchemaError} (fails : q.catalog.resolve = .error e) :
      Completion s q (.ok code) { answer := .error (.catalog e), session := s }
  | unmatched {code : LoadedCode} {catalog : Catalog} {events : List Event}
      (resolves : q.catalog.resolve = .ok catalog)
      (found : findMap q.address code.bytecode catalog = (none, events)) :
      Completion s q (.ok code)
        { answer := .error (.noSourceMap q.address), session := s
          events := events ++ [.unmatched q.address] }
  | attributed {code : LoadedCode} {catalog : Catalog} {m : MatchedMap} {events : List Event}
      {after : Session} (resolves : q.catalog.resolve = .ok catalog)
      (found : findMap q.address code.bytecode catalog = (some m, events))
      (writes : after = { s with
        maps := if Address.isCreation q.address then s.maps
          else s.maps.put (Address.key q.address) m }) :
      Completion s q (.ok code) { answer := after.answer q m, session := after, events }

/-- **The ways in which a lookup ends** once it has asked for the code of its address. -/
theorem completion (s : Session) (q : Lookup) (outcome : Except Fault LoadedCode) :
    Completion s q outcome (s.complete q outcome) := by
  cases outcome with
  | error f => exact .noCode f
  | ok code =>
      simp only [complete, Session.identify]
      cases hresolve : q.catalog.resolve with
      | error e => exact .noCatalog hresolve
      | ok catalog =>
          simp only
          cases hfound : findMap q.address code.bytecode catalog with
          | mk found events =>
              cases found with
              | none => exact .unmatched hresolve hfound
              | some m => exact .attributed hresolve hfound rfl

/-- Where its source map is kept, a lookup answers from it and changes nothing. -/
theorem locate_of_map {m : MatchedMap} (h : s.maps.get? (Address.key q.address) = some m) :
    s.locate q = { answer := s.answer q m, session := s } := by
  simp only [locate, begin, h]

/-- Where no source map is kept for it, a lookup gets the code of its address and goes on from
that. -/
theorem locate_of_no_map (h : s.maps.get? (Address.key q.address) = none) :
    s.locate q =
      { (s.getCode q.address).session.complete q (s.getCode q.address).answer with
        events := (s.getCode q.address).events ++
          ((s.getCode q.address).session.complete q (s.getCode q.address).answer).events } := by
  simp only [locate, begin, h, getCode, resume]
  cases s.codeOrigin q.address <;> rfl

theorem begin_eq_waiting_iff :
    s.begin q = .waiting ↔
      s.maps.get? (Address.key q.address) = none ∧ s.codeOrigin q.address = .provider := by
  unfold begin
  cases s.maps.get? (Address.key q.address) with
  | some m => simp
  | none => cases s.codeOrigin q.address <;> simp

/-- A lookup that does not wait is the whole lookup. -/
theorem locate_of_begin {step : Step Location} (h : s.begin q = .finished step) :
    s.locate q = step := by
  simp only [locate, h]

/-! ## Where a lookup writes -/

/-- Whether a session has changed at most in what it keeps under the keys of some addresses. -/
structure Confined (addresses : List String) (s s' : Session) : Prop where
  given : s'.bare = s.bare
  codes : ∀ key, key ∉ addresses.map Address.key → s'.codes.get? key = s.codes.get? key
  maps : ∀ key, key ∉ addresses.map Address.key → s'.maps.get? key = s.maps.get? key

theorem Confined.refl (addresses : List String) (s : Session) : Confined addresses s s where
  given := rfl
  codes := fun _ _ => rfl
  maps := fun _ _ => rfl

theorem Confined.trans (h : Confined addresses s s') (h' : Confined addresses s' s'') :
    Confined addresses s s'' where
  given := h'.given.trans h.given
  codes := fun key hkey => (h'.codes key hkey).trans (h.codes key hkey)
  maps := fun key hkey => (h'.maps key hkey).trans (h.maps key hkey)

theorem Confined.of_mem (h : Confined [address] s s') (hmem : address ∈ addresses) :
    Confined addresses s s' := by
  have hkeys : ∀ key, key ∉ addresses.map Address.key → key ∉ [address].map Address.key := by
    intro key hkey hown
    rw [List.map_singleton, List.mem_singleton] at hown
    rw [hown] at hkey
    exact hkey (List.mem_map_of_mem hmem)
  exact
    { given := h.given
      codes := fun key hkey => h.codes key (hkeys key hkey)
      maps := fun key hkey => h.maps key (hkeys key hkey) }

theorem ne_of_not_mem_keys {key : String} (h : key ∉ [address].map Address.key) :
    Address.key address ≠ key := by
  intro hkey
  rw [← hkey] at h
  exact h List.mem_cons_self

theorem confined_keep (s : Session) (address : String) (code : Json) :
    Confined [address] s (s.keep address code).2 := by
  unfold keep
  cases LoadedCode.ofJson address code with
  | error f => exact .refl _ s
  | ok loaded =>
      exact
        { given := rfl
          codes := fun key hkey => Table.get?_put_of_ne (ne_of_not_mem_keys hkey) loaded s.codes
          maps := fun key hkey => rfl }

theorem confined_fetch (s : Session) (address : String) :
    Confined [address] s (s.fetch address).2 := by
  unfold fetch
  cases s.provider.fetch address with
  | error r => exact .refl _ s
  | ok code => exact confined_keep s address code

theorem confined_getCode (s : Session) (address : String) :
    Confined [address] s (s.getCode address).session := by
  unfold getCode
  cases s.codeOrigin address with
  | loaded code => exact .refl _ s
  | registered code => exact confined_keep s address code
  | provider => exact confined_fetch s address

theorem confined_complete (s : Session) (q : Lookup) (outcome : Except Fault LoadedCode) :
    Confined [q.address] s (s.complete q outcome).session := by
  have hend := completion s q outcome
  generalize s.complete q outcome = step at hend ⊢
  cases hend with
  | noCode g => exact .refl _ s
  | noCatalog fails => exact .refl _ s
  | unmatched resolves found => exact .refl _ s
  | attributed resolves found writes =>
      subst writes
      refine { given := rfl, codes := fun key hkey => rfl, maps := ?_ }
      intro key hkey
      cases Address.isCreation q.address with
      | true => rfl
      | false => exact Table.get?_put_of_ne (ne_of_not_mem_keys hkey) _ s.maps

theorem confined_locate (s : Session) (q : Lookup) :
    Confined [q.address] s (s.locate q).session := by
  cases hmap : s.maps.get? (Address.key q.address) with
  | some m =>
      rw [locate_of_map hmap]
      exact .refl _ s
  | none =>
      rw [locate_of_no_map hmap]
      exact (confined_getCode s q.address).trans (confined_complete _ q _)

theorem confined_resume (s : Session) (q : Lookup) :
    Confined [q.address] s (s.resume q).session :=
  (confined_fetch s q.address).trans (confined_complete _ q _)

end EvmLocator.Session

namespace EvmLocator.Gathering

open Session

/-- Launching lookups leaves what their session was given. -/
theorem bare_launch (s : Session) (lookups : List Lookup) :
    (launch s lookups).session.bare = s.bare := by
  induction lookups generalizing s with
  | nil => rfl
  | cons q rest ih =>
      unfold launch
      cases hbegin : s.begin q with
      | finished step =>
          have hstep : step.session.bare = s.bare := by
            rw [← locate_of_begin hbegin]
            exact (confined_locate s q).given
          exact (ih step.session).trans hstep
      | waiting => exact ih s

theorem bare_resumeAt (g : Gathering) (i : Nat) : (g.resumeAt i).session.bare = g.session.bare := by
  unfold resumeAt
  split
  · exact (confined_resume g.session _).given
  · rfl

end EvmLocator.Gathering
