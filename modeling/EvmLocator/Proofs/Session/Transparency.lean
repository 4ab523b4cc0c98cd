import EvmLocator.Proofs.Session.Faithful
import EvmLocator.Proofs.Session.Loading
import EvmLocator.Proofs.Session.Uncached

/-!
# What is kept does not show

A session that follows one trace with one catalog may keep what it likes, as long as nobody can
tell: a lookup answers as it would on a new session with the same provider, the same trace and the
same registrations.

The two tables live for different times.  Forgetting the source maps leaves the codes, and a code
loaded for its own sake has no source map.  What relates them is that a source map is only kept
beside the code that it was found with, and the code is the provider's (`Coherent`).  A failed
lookup adds neither or the code alone, and lookups side by side add theirs one at a time, so
nothing is said about their order.

A code under a creation token may be an earlier registration's, but no lookup reuses it: a lookup
of a token loads the code again before it reads it.

## Main results

* `Coherent.move`: a move of an operation that comes between lookups keeps a session coherent.
* `answers_run_eq_prepared`: after any such operations, lookups answer as on a new session.
-/

namespace EvmLocator

/-! ## Operations between lookups -/

/-- Whether an operation may come between the lookups of a catalog: it is ordinary, stays with the
trace, and looks nothing up in another catalog. -/
structure Operation.Steady (source : CatalogSource) (op : Operation) : Prop where
  ordinary : op.isOrdinary = true
  sameTrace : ∀ trace, op ≠ .loadTrace trace
  sameCatalog : ∀ q ∈ op.lookups, q.catalog = source

/-- What an operation registers. -/
def Operation.registration? : Operation → Option (String × Json)
  | .register token code => some (token, code)
  | _ => none

/-- The registrations that operations make, in order. -/
def registrations (ops : List Operation) : List (String × Json) :=
  ops.filterMap Operation.registration?

/-- The lookups of a catalog may come between each other. -/
theorem Operation.steady_locate {source : CatalogSource} {q : Lookup} (h : q.catalog = source) :
    Steady source (.locate q) where
  ordinary := rfl
  sameTrace := fun trace => nofun
  sameCatalog := by
    intro q' hq'
    rw [List.mem_singleton.mp hq', h]

namespace Session

/-- The source map of a code depends on whether its address is a token, and not on its spelling. -/
theorem findMap_address {a b : String} (h : Address.key a = Address.key b)
    (observed : List Char) (catalog : Catalog) :
    findMap a observed catalog = findMap b observed catalog := by
  rw [findMap, findMap, Address.isCreation_eq_of_key h]

/-! ## Coherent sessions -/

/-- Whether what a session keeps is what lookups of a catalog would find again. -/
structure Coherent (source : CatalogSource) (s : Session) : Prop extends Faithful s where
  beside : ∀ address m, s.maps.get? (Address.key address) = some m →
    ∃ loaded catalog, s.codes.get? (Address.key address) = some loaded ∧
      source.resolve = .ok catalog ∧ (findMap address loaded.bytecode catalog).1 = some m

section

variable {source : CatalogSource} {op : Operation} {s s' : Session}

theorem coherent_fresh {provider : Provider} (h : provider.CaseBlind) (debug : Bool)
    (steps : List Json) (source : CatalogSource) :
    Coherent source { Session.fresh provider debug with trace := steps } where
  toFaithful := faithful_fresh h debug steps
  beside := fun address m hm => by cases hm

/-- What a coherent session keeps for an address is what a lookup of the address would find. -/
theorem Coherent.keeps (h : s.Coherent source) {q : Lookup} (hq : q.catalog = source) :
    s.Keeps q where
  code := by
    intro loaded hdeployed hloaded
    rw [h.served_eq hdeployed]
    exact h.code q.address loaded hdeployed hloaded
  map := by
    intro m hm
    have hdeployed := (h.map q.address m hm).1
    obtain ⟨loaded, catalog, hloaded, hresolve, hfound⟩ := h.beside q.address m hm
    obtain ⟨code, hfetch, hreads⟩ := h.code q.address loaded hdeployed hloaded
    rw [h.served_eq hdeployed, hq]
    exact ⟨code, loaded, catalog, hfetch, hreads, hloaded, hresolve, hfound⟩

/-! ## What the moves keep -/

/-- Loading a code again writes the code that was there. -/
theorem Coherent.load (h : s.Coherent source) {address : String} {code : Json}
    {loaded : LoadedCode} (hserved : s.served address = .ok code)
    (hreads : LoadedCode.ofJson address code = .ok loaded) :
    Coherent source { s with codes := s.codes.put (Address.key address) loaded } := by
  refine { toFaithful := h.toFaithful.load hserved hreads, beside := ?_ }
  intro other m hm
  have hother := (h.map other m hm).1
  obtain ⟨found, catalog, hfound, hresolve, hmap⟩ := h.beside other m hm
  refine ⟨found, catalog, ?_, hresolve, hmap⟩
  rw [Table.get?_put]
  split
  · next hkey =>
      obtain ⟨hfetch, hsame⟩ := h.fetch_eq_of_key hserved hreads hother (eq_of_beq hkey)
      obtain ⟨code', hfetch', hreads'⟩ := h.code other found hother hfound
      rw [hfetch, Except.ok.injEq] at hfetch'
      rw [← hfetch', hsame, Except.ok.injEq] at hreads'
      rw [hreads']
  · exact hfound

theorem Coherent.keepMap (h : s.Coherent source) {address : String} {loaded : LoadedCode}
    {catalog : Catalog} {m : MatchedMap} (hdeployed : Address.isCreation address = false)
    (hloaded : s.codes.get? (Address.key address) = some loaded)
    (hresolve : source.resolve = .ok catalog)
    (hfound : (findMap address loaded.bytecode catalog).1 = some m) :
    Coherent source { s with maps := s.maps.put (Address.key address) m } := by
  refine { toFaithful := h.toFaithful.keepMap hdeployed hloaded m, beside := ?_ }
  intro other m' hm'
  rw [Table.get?_put] at hm'
  split at hm'
  · next hkey =>
      cases hm'
      have hkey : Address.key address = Address.key other := eq_of_beq hkey
      rw [hkey] at hloaded
      rw [findMap_address hkey] at hfound
      exact ⟨loaded, catalog, hloaded, hresolve, hfound⟩
  · exact h.beside other m' hm'

/-- A move of an operation that comes between lookups keeps a session coherent. -/
theorem Coherent.move (h : s.Coherent source) (hop : op.Steady source) (hmove : Moves op s s') :
    s'.Coherent source := by
  have hfaithful := h.toFaithful.move hop.ordinary hmove
  cases hmove with
  | load asked served reads => exact h.load served reads
  | keepMap asked deployed loaded resolves found =>
      rw [hop.sameCatalog _ asked] at resolves
      exact h.keepMap deployed loaded resolves found
  | identify asked deployed =>
      have hordinary := hop.ordinary
      rw [asked] at hordinary
      cases hordinary
  | loadTrace asked reads => exact absurd asked (hop.sameTrace _)
  | register asked =>
      refine { toFaithful := hfaithful, beside := ?_ }
      intro address m hm
      have htoken := hop.ordinary
      rw [asked] at htoken
      rw [codes_register htoken _ (h.map address m hm).1]
      exact h.beside address m hm
  | record asked => exact { toFaithful := hfaithful, beside := h.beside }
  | clearCache asked => exact { toFaithful := hfaithful, beside := fun address m hm => by cases hm }

theorem Coherent.evolves (h : s.Coherent source) (hop : op.Steady source) (he : Evolves op s s') :
    s'.Coherent source := by
  induction he with
  | refl => exact h
  | tail _ hmove ih => exact ih.move hop hmove

/-! ## Answers -/

theorem uncached_eq_of_bare (h : s'.bare = s.bare) (q : Lookup) : s'.uncached q = s.uncached q := by
  rw [← uncached_bare s', h, uncached_bare]

theorem Coherent.answer_locate (h : s.Coherent source) {q : Lookup} (hq : q.catalog = source) :
    (s.locate q).answer = s.uncached q :=
  answer_locate_eq_uncached (h.keeps hq)

/-- Lookups side by side answer as each would alone, in whatever order they resume. -/
theorem Coherent.answer_gather (h : s.Coherent source) (order : List Nat) {lookups : List Lookup}
    (hlookups : ∀ q ∈ lookups, q.catalog = source) :
    (s.gather order lookups).answer = .ok (lookups.map s.uncached) := by
  have rules : Gathering.Rules (fun q => q.catalog = source)
      (fun s' => s'.Coherent source ∧ s'.bare = s.bare)
      (fun q => q.catalog = source ∧ s.registered.get? q.address = none)
      (fun q answer => s.uncached q = answer) :=
    { finishes := by
        intro s' q step hq hs hbegin
        have hevolves : Evolves (.locate q) s' step.session :=
          evolves_begin List.mem_cons_self hbegin
        have hanswer := answer_begin_eq_uncached (hs.1.keeps hq) hbegin
        rw [uncached_eq_of_bare hs.2] at hanswer
        exact ⟨hanswer.symm, hs.1.evolves (Operation.steady_locate hq) hevolves,
          (hevolves.bare_eq rfl).trans hs.2⟩
      waits := by
        intro s' q hq hs hbegin
        have hnone := registered_of_begin hbegin
        rw [registered_eq_of_bare hs.2] at hnone
        exact ⟨hq, hnone⟩
      resumes := by
        intro s' q hs hwaits
        obtain ⟨hq, hnone⟩ := hwaits
        rw [← registered_eq_of_bare hs.2] at hnone
        have hevolves : Evolves (.locate q) s' (s'.resume q).session :=
          evolves_resume List.mem_cons_self hnone
        have hanswer := answer_resume_eq_uncached hnone
        rw [uncached_eq_of_bare hs.2] at hanswer
        exact ⟨hanswer.symm, hs.1.evolves (Operation.steady_locate hq) hevolves,
          (hevolves.bare_eq rfl).trans hs.2⟩ }
  obtain ⟨answers, hanswer, hall, -⟩ := gather_induction rules order hlookups ⟨h, rfl⟩
  have hmap : lookups.map s.uncached = answers := by
    rw [← List.forall₂_eq_eq_eq, List.forall₂_map_left_iff]
    exact hall
  rw [hanswer, hmap]

/-! ## Runs -/

/-- Besides what it keeps, a run leaves its registrations. -/
theorem bare_run {ops : List Operation} (hops : ∀ op ∈ ops, op.Steady source) :
    (s.run ops).bare =
      (registrations ops).foldl (fun s entry => s.register entry.1 entry.2) s.bare := by
  induction ops generalizing s with
  | nil => rfl
  | cons op ops ih =>
      have hop := hops op List.mem_cons_self
      rw [run_cons, ih fun op' hop' => hops op' (List.mem_cons_of_mem _ hop')]
      by_cases hinput : op.isInput = true
      · cases op with
        | register token code => rfl
        | loadTrace trace => exact absurd rfl (hop.sameTrace trace)
        | record address code => cases hop.ordinary
        | _ => cases hinput
      · rw [(evolves_apply s op).bare_eq (Bool.not_eq_true _ ▸ hinput)]
        cases op with
        | register token code => exact absurd rfl hinput
        | _ => rfl

/-- **What is kept does not show.**  Take a session of recorded codes that follows a trace, and any
operations that come between the lookups of one catalog.  Every lookup of the catalog after them
answers as on a new session with the same recorded codes, the same trace and the registrations
made so far, and so does each of any lookups that run side by side. -/
theorem answers_run_eq_prepared (codes : List (String × Json)) (debug : Bool) (steps : List Json)
    (source : CatalogSource) (ops : List Operation) (hops : ∀ op ∈ ops, op.Steady source) :
    (∀ q : Lookup, q.catalog = source →
      (((Session.prepared (Provider.ofMembers codes) debug steps []).run ops).locate q).answer =
        ((Session.prepared (Provider.ofMembers codes) debug steps
          (registrations ops)).locate q).answer) ∧
      ∀ (order : List Nat) (lookups : List Lookup), (∀ q ∈ lookups, q.catalog = source) →
        (((Session.prepared (Provider.ofMembers codes) debug steps []).run ops).gather
            order lookups).answer =
          .ok (lookups.map fun q =>
            ((Session.prepared (Provider.ofMembers codes) debug steps
              (registrations ops)).locate q).answer) := by
  have hstart : Coherent source (Session.prepared (Provider.ofMembers codes) debug steps []) :=
    coherent_fresh (Provider.caseBlind_recorded _) debug steps source
  have hrun : Coherent source
      ((Session.prepared (Provider.ofMembers codes) debug steps []).run ops) :=
    run_induction (fun op hop s s' hmove h => h.move (hops op hop) hmove) hstart
  have hbare : ((Session.prepared (Provider.ofMembers codes) debug steps []).run ops).bare =
      Session.prepared (Provider.ofMembers codes) debug steps (registrations ops) := bare_run hops
  rw [← hbare]
  simp only [answer_locate_bare]
  exact ⟨fun q hq => hrun.answer_locate hq,
    fun order lookups hlookups => hrun.answer_gather order hlookups⟩

end

namespace Sample

def token : String := "(Contract Creation - Step 1)"

/-- The lookup of the first instruction of a creation. -/
def creation : Lookup :=
  { address := token, target := .index (.num 0), catalog := source }

/-- Operations between lookups, among them a registration and a lookup of its token. -/
def between : List Operation :=
  [.locate lookup, .register token (.str "0x60016002"), .gather [1, 0] [creation, lookup],
    .clearCache, .getCode "0xABC"]

end Sample

theorem answers_run_eq_prepared_sample :
    (∀ op ∈ Sample.between, op.Steady Sample.source) ∧
      (((Session.prepared (Provider.ofMembers Sample.codes) false Sample.steps []).run
          Sample.between).locate Sample.lookup).answer = .ok Sample.location ∧
      (((Session.prepared (Provider.ofMembers Sample.codes) false Sample.steps []).run
          Sample.between).gather [0] [Sample.lookup, Sample.creation]).answer =
        .ok [.ok Sample.location,
          .ok { start := some 7, length := some 1, file := some 0, jump := some "-" }] := by
  have hops : ∀ op ∈ Sample.between, op.Steady Sample.source := by
    simp only [Sample.between, List.forall_mem_cons]
    refine ⟨Operation.steady_locate rfl, ⟨by decide, nofun, nofun⟩, ⟨rfl, nofun, ?_⟩,
      ⟨rfl, nofun, nofun⟩, ⟨rfl, nofun, nofun⟩, nofun⟩
    simp [Operation.lookups, Sample.creation, Sample.lookup]
  have hanswers := answers_run_eq_prepared Sample.codes false Sample.steps Sample.source
    Sample.between hops
  refine ⟨hops, ?_, ?_⟩
  · rw [hanswers.1 Sample.lookup rfl]
    decide +kernel
  · rw [hanswers.2 [0] [Sample.lookup, Sample.creation] (by simp [Sample.creation, Sample.lookup])]
    decide +kernel

end Session

end EvmLocator
