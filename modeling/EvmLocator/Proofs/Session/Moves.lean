import EvmLocator.Proofs.Session.Gathering
import EvmLocator.Session.Operation
import Mathlib.Logic.Relation

/-!
# What an operation can change

An operation reaches its answer through pieces: a code is loaded, a code is attributed and its
source map kept, and lookups side by side do so in each other's gaps.  Whatever the order, a session
only ever changes by a few moves, and each move says under which condition it is made.  `Moves` is
the list of them, and `evolves_apply` says that every operation is a chain of its own moves.  A
property of sessions that each move keeps is then kept by every operation, with no word about the
order in which lookups resume.

A code is loaded from what the session serves for the address: a registration comes before the
provider.  A lookup that waits for the provider has found no registration, and since no lookup
registers anything, it will find none when it resumes.

## Main results

* `evolves_apply`: an operation is a chain of its moves.
* `run_induction`: what every move keeps is kept by a run of operations.
* `Evolves.bare_eq`: an operation that is no input leaves what the session was given.
-/

namespace EvmLocator

namespace Operation

/-- The lookups of an operation. -/
def lookups : Operation → List Lookup
  | .locate q => [q]
  | .gather _ lookups => lookups
  | _ => []

/-- The addresses whose code an operation may ask for. -/
def addresses : Operation → List String
  | .getCode address => [address]
  | op => op.lookups.map Lookup.address

/-- Whether an operation brings something in that lookups draw on. -/
def isInput : Operation → Bool
  | .loadTrace _ => true
  | .register _ _ => true
  | .record _ _ => true
  | _ => false

theorem address_mem_addresses {op : Operation} {q : Lookup} (h : q ∈ op.lookups) :
    q.address ∈ op.addresses := by
  cases op with
  | locate q' => exact List.mem_map_of_mem h
  | gather order lookups => exact List.mem_map_of_mem h
  | _ => cases h

end Operation

namespace Session

/-- The code that a session has for an address from the outside: the registered one, or else what
the provider gives. -/
def served (s : Session) (address : String) : Except Refusal Json :=
  match s.registered.get? address with
  | some code => .ok code
  | none => s.provider.fetch address

/-- A session without anything that lookups have left in it. -/
def bare (s : Session) : Session :=
  { s with codes := [], maps := [] }

/-- The moves that an operation can make. -/
inductive Moves (op : Operation) (s : Session) : Session → Prop
  | load {address : String} {code : Json} {loaded : LoadedCode}
      (asked : address ∈ op.addresses) (served : s.served address = .ok code)
      (reads : LoadedCode.ofJson address code = .ok loaded) :
      Moves op s { s with codes := s.codes.put (Address.key address) loaded }
  | keepMap {q : Lookup} {code : LoadedCode} {catalog : Catalog} {m : MatchedMap}
      (asked : q ∈ op.lookups) (deployed : Address.isCreation q.address = false)
      (loaded : s.codes.get? (Address.key q.address) = some code)
      (resolves : q.catalog.resolve = .ok catalog)
      (found : (findMap q.address code.bytecode catalog).1 = some m) :
      Moves op s { s with maps := s.maps.put (Address.key q.address) m }
  | identify {address : String} {code : Json} {source : CatalogSource} {m : MatchedMap}
      (asked : op = .identify address code source)
      (deployed : Address.isCreation address = false) :
      Moves op s { s with maps := s.maps.put (Address.key address) m }
  | loadTrace {trace : Json} {steps : List Json} (asked : op = .loadTrace trace)
      (reads : Trace.stepsOf trace = .ok steps) :
      Moves op s { s with trace := steps, codes := [], registered := [] }
  | register {token : String} {code : Json} (asked : op = .register token code) :
      Moves op s (s.register token code)
  | record {address : String} {code : Json} (asked : op = .record address code) :
      Moves op s { s with provider := s.provider.record address code }
  | clearCache (asked : op = .clearCache) : Moves op s s.clearCache

/-- Whether moves of an operation, one after another, lead from one session to another. -/
abbrev Evolves (op : Operation) : Session → Session → Prop :=
  Relation.ReflTransGen (Moves op)

section

variable {op : Operation} {s s' : Session}

/-- An operation that is no input leaves what the session was given. -/
theorem Moves.bare_eq (hop : op.isInput = false) (h : Moves op s s') : s'.bare = s.bare := by
  cases h with
  | load asked served reads => rfl
  | keepMap asked deployed loaded resolves found => rfl
  | identify asked deployed => rfl
  | loadTrace asked reads =>
      subst asked
      cases hop
  | register asked =>
      subst asked
      cases hop
  | record asked =>
      subst asked
      cases hop
  | clearCache asked => rfl

theorem Evolves.bare_eq (hop : op.isInput = false) (h : Evolves op s s') : s'.bare = s.bare := by
  induction h with
  | refl => rfl
  | tail _ hmove ih => exact (hmove.bare_eq hop).trans ih

theorem registered_eq_of_bare (h : s'.bare = s.bare) : s'.registered = s.registered := by
  show s'.bare.registered = s.bare.registered
  rw [h]

theorem Evolves.registered_eq (hop : op.isInput = false) (h : Evolves op s s') :
    s'.registered = s.registered :=
  registered_eq_of_bare (h.bare_eq hop)

/-! ## Where a code comes from -/

variable {address : String}

theorem codeOrigin_eq_loaded_iff {code : LoadedCode} :
    s.codeOrigin address = .loaded code ↔
      Address.isCreation address = false ∧ s.codes.get? (Address.key address) = some code := by
  unfold codeOrigin
  cases hcreation : Address.isCreation address with
  | true => cases s.registered.get? address <;> simp
  | false =>
      cases s.codes.get? (Address.key address) with
      | some loaded => simp
      | none => cases s.registered.get? address <;> simp

theorem registered_of_codeOrigin {code : Json} (h : s.codeOrigin address = .registered code) :
    s.registered.get? address = some code := by
  unfold codeOrigin at h
  split at h
  · cases h
  · split at h
    · next hfound =>
        cases h
        exact hfound
    · cases h

theorem registered_of_codeOrigin_provider (h : s.codeOrigin address = .provider) :
    s.registered.get? address = none := by
  unfold codeOrigin at h
  split at h
  · cases h
  · split at h
    · cases h
    · next hnone => exact hnone

theorem served_of_registered {code : Json} (h : s.registered.get? address = some code) :
    s.served address = .ok code := by
  rw [served, h]

theorem served_of_not_registered (h : s.registered.get? address = none) :
    s.served address = s.provider.fetch address := by
  rw [served, h]

/-! ## The moves of one lookup -/

variable {code : Json} {loaded : LoadedCode} {q : Lookup}

theorem evolves_keep (hasked : address ∈ op.addresses) (hserved : s.served address = .ok code) :
    Evolves op s (s.keep address code).2 := by
  unfold keep
  cases hreads : LoadedCode.ofJson address code with
  | error f => exact .refl
  | ok loaded => exact .single (.load hasked hserved hreads)

/-- A code that is kept is found again. -/
theorem codes_keep (h : (s.keep address code).1 = .ok loaded) :
    (s.keep address code).2.codes.get? (Address.key address) = some loaded := by
  unfold keep at h ⊢
  cases hreads : LoadedCode.ofJson address code with
  | error f =>
      rw [hreads] at h
      cases h
  | ok found =>
      rw [hreads] at h
      cases h
      exact Table.get?_put_self _ _ _

theorem evolves_fetch (hasked : address ∈ op.addresses)
    (hnone : s.registered.get? address = none) : Evolves op s (s.fetch address).2 := by
  unfold fetch
  cases hfetch : s.provider.fetch address with
  | error r => exact .refl
  | ok code => exact evolves_keep hasked ((served_of_not_registered hnone).trans hfetch)

theorem codes_fetch (h : (s.fetch address).1 = .ok loaded) :
    (s.fetch address).2.codes.get? (Address.key address) = some loaded := by
  unfold fetch at h ⊢
  cases hfetch : s.provider.fetch address with
  | error r =>
      rw [hfetch] at h
      cases h
  | ok code =>
      rw [hfetch] at h
      exact codes_keep h

theorem evolves_getCode (hasked : address ∈ op.addresses) :
    Evolves op s (s.getCode address).session := by
  unfold getCode
  cases horigin : s.codeOrigin address with
  | loaded code => exact .refl
  | registered code =>
      exact evolves_keep hasked (served_of_registered (registered_of_codeOrigin horigin))
  | provider => exact evolves_fetch hasked (registered_of_codeOrigin_provider horigin)

/-- The end of a lookup attributes the code that was loaded for it. -/
theorem evolves_complete {outcome : Except Fault LoadedCode} (hq : q ∈ op.lookups)
    (h : ∀ loaded, outcome = .ok loaded →
      s.codes.get? (Address.key q.address) = some loaded) :
    Evolves op s (s.complete q outcome).session := by
  cases outcome with
  | error f => exact .refl
  | ok loaded =>
      simp only [complete, Session.identify]
      cases hresolve : q.catalog.resolve with
      | error e => exact .refl
      | ok catalog =>
          simp only
          cases hfound : findMap q.address loaded.bytecode catalog with
          | mk found events =>
              cases found with
              | none => exact .refl
              | some m =>
                  cases hcreation : Address.isCreation q.address with
                  | true => exact .refl
                  | false =>
                      exact .single (.keepMap hq hcreation (h loaded rfl) hresolve
                        (congrArg Prod.fst hfound))

theorem evolves_begin {step : Step Location} (hq : q ∈ op.lookups)
    (h : s.begin q = .finished step) : Evolves op s step.session := by
  have hasked := Operation.address_mem_addresses hq
  unfold begin at h
  split at h
  · cases h
    exact .refl
  · split at h
    · next hloaded =>
        cases h
        apply evolves_complete hq
        intro loaded hok
        cases hok
        exact (codeOrigin_eq_loaded_iff.mp hloaded).2
    · next code hregistered =>
        cases h
        have hserved := served_of_registered (registered_of_codeOrigin hregistered)
        exact (evolves_keep hasked hserved).trans (evolves_complete hq fun _ => codes_keep)
    · cases h

/-- A lookup that waits has found no registration. -/
theorem registered_of_begin (h : s.begin q = .waiting) : s.registered.get? q.address = none := by
  unfold begin at h
  split at h
  · cases h
  · split at h
    · cases h
    · cases h
    · next hprovider => exact registered_of_codeOrigin_provider hprovider

theorem evolves_resume (hq : q ∈ op.lookups) (hnone : s.registered.get? q.address = none) :
    Evolves op s (s.resume q).session :=
  (evolves_fetch (Operation.address_mem_addresses hq) hnone).trans
    (evolves_complete hq fun _ => codes_fetch)

theorem evolves_locate (hq : q ∈ op.lookups) : Evolves op s (s.locate q).session := by
  unfold locate
  cases hbegin : s.begin q with
  | finished step => exact evolves_begin hq hbegin
  | waiting => exact evolves_resume hq (registered_of_begin hbegin)

end

end Session

namespace Session

/-! ## The moves of lookups side by side -/

theorem evolves_gather (s : Session) (order : List Nat) (lookups : List Lookup) :
    Evolves (.gather order lookups) s (s.gather order lookups).session := by
  -- A lookup that waits has found no registration, and none is made until it resumes.
  have rules : Gathering.Rules (fun q => q ∈ lookups) (Evolves (.gather order lookups) s)
      (fun q => q ∈ lookups ∧ s.registered.get? q.address = none) (fun _ _ => True) :=
    { finishes := fun hq hs hbegin => ⟨trivial, hs.trans (evolves_begin hq hbegin)⟩
      waits := by
        intro s' q hq hs hbegin
        have hnone := registered_of_begin hbegin
        rw [hs.registered_eq rfl] at hnone
        exact ⟨hq, hnone⟩
      resumes := by
        intro s' q hs hwaits
        obtain ⟨hq, hnone⟩ := hwaits
        rw [← hs.registered_eq rfl] at hnone
        exact ⟨trivial, hs.trans (evolves_resume hq hnone)⟩ }
  obtain ⟨answers, -, -, hlast⟩ := gather_induction rules order (fun q hq => hq) .refl
  exact hlast

/-! ## The moves of any operation -/

theorem evolves_identifyJson (s : Session) (address : String) (code : Json)
    (source : CatalogSource) :
    Evolves (.identify address code source) s (s.identifyJson address code source).session := by
  unfold identifyJson
  cases source.resolve with
  | error e => exact .refl
  | ok catalog =>
      simp only
      cases observedText address code catalog with
      | error u => exact .refl
      | ok observed =>
          simp only [Session.identify, CatalogSource.resolve]
          cases findMap address observed catalog with
          | mk found events =>
              cases found with
              | none => exact .refl
              | some m =>
                  cases hcreation : Address.isCreation address with
                  | true => exact .refl
                  | false => exact .single (.identify rfl hcreation)

theorem session_findMapJson (s : Session) (address : String) (code : Json)
    (source : CatalogSource) : (s.findMapJson address code source).session = s := by
  unfold findMapJson
  cases source.resolve with
  | error e => rfl
  | ok catalog => cases h : observedText address code catalog <;> simp [h]

/-- **Every operation is a chain of its moves.** -/
theorem evolves_apply (s : Session) (op : Operation) : Evolves op s (s.apply op).session := by
  cases op with
  | getCode address => exact evolves_getCode List.mem_cons_self
  | loadTrace trace =>
      simp only [apply, Session.loadTrace]
      cases hsteps : Trace.stepsOf trace with
      | error f => exact .refl
      | ok steps => exact .single (.loadTrace rfl hsteps)
  | register token code => exact .single (.register rfl)
  | record address code => exact .single (.record rfl)
  | counter step => exact .refl
  | instructionIndex address step => exact .refl
  | locate q => exact evolves_locate List.mem_cons_self
  | generatedSources address => exact .refl
  | clearCache => exact .single (.clearCache rfl)
  | identify address code source => exact evolves_identifyJson s address code source
  | findMap address code source =>
      show Evolves _ s (s.findMapJson address code source).session
      rw [session_findMapJson]
  | gather order lookups => exact evolves_gather s order lookups

/-! ## Runs -/

/-- The session after operations, one after another. -/
def run (s : Session) (ops : List Operation) : Session :=
  ops.foldl (fun s op => (s.apply op).session) s

@[simp] theorem run_nil (s : Session) : s.run [] = s := rfl

@[simp] theorem run_cons (s : Session) (op : Operation) (ops : List Operation) :
    s.run (op :: ops) = (s.apply op).session.run ops := rfl

/-- What every move of an operation keeps is kept by the operation. -/
theorem apply_induction {P : Session → Prop} {s : Session} {op : Operation}
    (hmove : ∀ s s', Moves op s s' → P s → P s') (h : P s) : P (s.apply op).session := by
  have hevolves := evolves_apply s op
  generalize (s.apply op).session = after at hevolves ⊢
  induction hevolves with
  | refl => exact h
  | tail _ hstep ih => exact hmove _ _ hstep ih

/-- What every move keeps is kept by a run. -/
theorem run_induction {P : Session → Prop} {s : Session} {ops : List Operation}
    (hmove : ∀ op ∈ ops, ∀ s s', Moves op s s' → P s → P s') (h : P s) : P (s.run ops) := by
  induction ops generalizing s with
  | nil => exact h
  | cons op ops ih =>
      rw [run_cons]
      apply ih fun op' hop' => hmove op' (List.mem_cons_of_mem _ hop')
      exact apply_induction (hmove op List.mem_cons_self) h

end Session

end EvmLocator
