import EvmLocator.Proofs.Session.Faithful
import EvmLocator.Proofs.Session.Stages

/-!
# When the provider is asked

Asking the provider is the one slow thing that a session does, and there are three ways in which it
gets by without: a source map that is kept makes the code unnecessary, a code that is loaded is
reused, and a code that is registered is taken instead.  The first lasts until the source maps are
forgotten and the other two until the next trace is loaded.

The reuse of loaded codes is about addresses, and every spelling of an address counts.  A creation
token is no spelling of an address, even one with the same lower case: its code is never reused,
since the token can stand for different constructors, so it is asked for each time unless a code is
registered for it (`token_asked_again`).

A failure to load a code is no loading, but a lookup may load the code of its address and fail
later, for want of a contract that matches (`GetsCode`).  That counts.

## Main results

* `fetched_mem_events_iff`: exactly when an operation asks the provider, and for which address.
* `Loaded.move`: a code that is loaded for an address stays loaded as long as no trace is loaded.
* `asks_no_more`: when the provider is not asked.
-/

namespace EvmLocator

/-- Whether an operation is one by itself, leaves the provider's codes as they are, and registers
codes for tokens only. -/
def Operation.isSequential : Operation → Bool
  | .register token _ => Address.isCreation token
  | .record _ _ => false
  | .gather _ _ => false
  | _ => true

namespace Session

variable {s s' : Session} {op : Operation} {q : Lookup} {address other : String}

/-! ## Which operations ask -/

theorem codeOrigin_eq_provider_iff :
    s.codeOrigin address = .provider ↔
      (Address.isCreation address = false → s.codes.get? (Address.key address) = none) ∧
        s.registered.get? address = none := by
  unfold codeOrigin
  cases Address.isCreation address with
  | true => cases s.registered.get? address <;> simp
  | false =>
      cases s.codes.get? (Address.key address) with
      | some loaded => simp
      | none => cases s.registered.get? address <;> simp

/-- Whether an operation asks the provider for the code of an address. -/
inductive Asks (s : Session) (address : String) : Operation → Prop
  | getCode (origin : s.codeOrigin address = .provider) : Asks s address (.getCode address)
  | locate {q : Lookup} (names : q.address = address)
      (unkept : s.maps.get? (Address.key address) = none)
      (origin : s.codeOrigin address = .provider) : Asks s address (.locate q)

theorem fetched_mem_events_getCode_iff :
    .fetched other ∈ (s.getCode address).events ↔
      other = address ∧ s.codeOrigin address = .provider := by
  unfold getCode
  cases s.codeOrigin address <;> simp

/-- The search for a contract asks for nothing. -/
theorem fetched_not_mem_snd_findMap (observed : List Char) (catalog : Catalog) :
    .fetched other ∉ (findMap address observed catalog).2 := by
  simp [findMap]

/-- What follows the code in a lookup asks for nothing. -/
theorem fetched_not_mem_events_complete (s : Session) (q : Lookup)
    (outcome : Except Fault LoadedCode) : .fetched other ∉ (s.complete q outcome).events := by
  have hend := completion s q outcome
  generalize s.complete q outcome = step at hend ⊢
  cases hend with
  | noCode f => exact List.not_mem_nil
  | noCatalog fails => exact List.not_mem_nil
  | @unmatched code catalog events resolves found =>
      have hsearch : .fetched other ∉ (findMap q.address code.bytecode catalog).2 :=
        fetched_not_mem_snd_findMap code.bytecode catalog
      rw [found] at hsearch
      simpa using hsearch
  | @attributed code catalog m events after resolves found writes =>
      have hsearch : .fetched other ∉ (findMap q.address code.bytecode catalog).2 :=
        fetched_not_mem_snd_findMap code.bytecode catalog
      rwa [found] at hsearch

theorem fetched_mem_events_locate_iff :
    .fetched other ∈ (s.locate q).events ↔
      other = q.address ∧ s.maps.get? (Address.key q.address) = none ∧
        s.codeOrigin q.address = .provider := by
  cases hmap : s.maps.get? (Address.key q.address) with
  | some m =>
      rw [locate_of_map hmap]
      simp
  | none =>
      rw [locate_of_no_map hmap]
      simp only [List.mem_append, fetched_mem_events_getCode_iff, true_and, or_iff_left_iff_imp]
      intro hcomplete
      exact absurd hcomplete (fetched_not_mem_events_complete _ _ _)

/-- Identifying the contract of a code that is handed in asks for nothing. -/
theorem fetched_not_mem_events_identifyJson (s : Session) (address : String) (code : Json)
    (source : CatalogSource) : .fetched other ∉ (s.identifyJson address code source).events := by
  unfold identifyJson
  cases source.resolve with
  | error e => exact List.not_mem_nil
  | ok catalog =>
      simp only
      cases observedText address code catalog with
      | error u => exact List.not_mem_nil
      | ok observed =>
          have hsearch : .fetched other ∉ (findMap address observed catalog).2 :=
            fetched_not_mem_snd_findMap observed catalog
          simp only [Session.identify, CatalogSource.resolve]
          split
          · next events hfound =>
              rw [hfound] at hsearch
              simpa using hsearch
          · next m events hfound => rwa [hfound] at hsearch

theorem fetched_not_mem_events_findMapJson (s : Session) (address : String) (code : Json)
    (source : CatalogSource) : .fetched other ∉ (s.findMapJson address code source).events := by
  unfold findMapJson
  cases source.resolve with
  | error e => exact List.not_mem_nil
  | ok catalog =>
      simp only
      cases observedText address code catalog with
      | error u => exact List.not_mem_nil
      | ok observed => exact fetched_not_mem_snd_findMap observed catalog

/-- **Exactly when an operation asks the provider**, and for which address. -/
theorem fetched_mem_events_iff (hop : op.isSequential = true) :
    .fetched address ∈ (s.apply op).events ↔ s.Asks address op := by
  constructor
  · intro h
    cases op with
    | getCode a =>
        obtain ⟨rfl, horigin⟩ := fetched_mem_events_getCode_iff.mp h
        exact .getCode horigin
    | locate q =>
        obtain ⟨rfl, hunkept, horigin⟩ := fetched_mem_events_locate_iff.mp h
        exact .locate rfl hunkept horigin
    | loadTrace trace =>
        simp only [apply] at h
        cases hload : s.loadTrace trace <;> simp [hload] at h
    | identify a code source => exact absurd h (fetched_not_mem_events_identifyJson s a code source)
    | findMap a code source => exact absurd h (fetched_not_mem_events_findMapJson s a code source)
    | record a code => cases hop
    | gather order lookups => cases hop
    | _ => exact absurd h List.not_mem_nil
  · intro h
    cases h with
    | getCode origin => exact fetched_mem_events_getCode_iff.mpr ⟨rfl, origin⟩
    | locate names unkept origin =>
        subst names
        exact fetched_mem_events_locate_iff.mpr ⟨rfl, unkept, origin⟩

/-! ## Codes that stay loaded -/

/-- Whether an operation gets the code of an address: it asks for the code itself, or it looks the
address up with no source map kept for it, whatever becomes of the lookup after that. -/
inductive GetsCode (s : Session) (address : String) : Operation → Prop
  | getCode {code : LoadedCode} (gets : (s.getCode address).answer = .ok code) :
      GetsCode s address (.getCode address)
  | locate {q : Lookup} {code : LoadedCode} (names : q.address = address)
      (unkept : s.maps.get? (Address.key address) = none)
      (gets : (s.getCode address).answer = .ok code) : GetsCode s address (.locate q)

/-- Whether a code is loaded for an address. -/
def Loaded (s : Session) (address : String) : Prop :=
  ∃ code, s.codes.get? (Address.key address) = some code

theorem loaded_getCode {code : LoadedCode} (h : (s.getCode address).answer = .ok code) :
    (s.getCode address).session.Loaded address := by
  refine ⟨code, ?_⟩
  unfold getCode at h ⊢
  cases horigin : s.codeOrigin address with
  | loaded loaded =>
      rw [horigin] at h
      cases h
      exact (codeOrigin_eq_loaded_iff.mp horigin).2
  | registered registered =>
      rw [horigin] at h
      exact codes_keep h
  | provider =>
      rw [horigin] at h
      exact codes_fetch h

/-- What follows the code in a lookup leaves the codes as they are. -/
theorem codes_complete (s : Session) (q : Lookup) (outcome : Except Fault LoadedCode) :
    (s.complete q outcome).session.codes = s.codes := by
  have hend := completion s q outcome
  generalize s.complete q outcome = step at hend ⊢
  cases hend with
  | attributed resolves found writes => rw [writes]
  | _ => rfl

theorem GetsCode.loaded (h : s.GetsCode address op) : (s.apply op).session.Loaded address := by
  cases h with
  | getCode gets => exact loaded_getCode gets
  | locate names unkept gets =>
      subst names
      show (s.locate _).session.Loaded _
      rw [locate_of_no_map unkept]
      unfold Loaded
      rw [codes_complete]
      exact loaded_getCode gets

/-- A code that is loaded for an address stays loaded as long as no trace is loaded. -/
theorem Loaded.move (h : s.Loaded address) (hdeployed : Address.isCreation address = false)
    (hop : op.isSequential = true)
    (htrace : ∀ trace, op = .loadTrace trace → ∃ f, Trace.stepsOf trace = .error f)
    (hmove : Moves op s s') : s'.Loaded address := by
  cases hmove with
  | load asked served reads =>
      unfold Loaded
      rw [Table.get?_put]
      split
      · exact ⟨_, rfl⟩
      · exact h
  | keepMap asked deployed loaded resolves found => exact h
  | identify asked deployed => exact h
  | loadTrace asked reads =>
      obtain ⟨f, hf⟩ := htrace _ asked
      rw [hf] at reads
      cases reads
  | register asked =>
      subst asked
      unfold Loaded
      rw [codes_register hop _ hdeployed]
      exact h
  | record asked =>
      subst asked
      cases hop
  | clearCache asked => exact h

/-- An operation asks for no address whose code is loaded. -/
theorem Loaded.not_asks (h : s.Loaded address) (hdeployed : Address.isCreation address = false) :
    ¬ s.Asks address op := by
  obtain ⟨code, hcode⟩ := h
  intro hasks
  have horigin : s.codeOrigin address = .provider := by
    cases hasks with
    | getCode origin => exact origin
    | locate names unkept origin => exact origin
  rw [(codeOrigin_eq_provider_iff.mp horigin).1 hdeployed] at hcode
  cases hcode

/-- Loading traces leaves the source maps. -/
theorem get?_maps_run_loadTrace {m : MatchedMap}
    (h : s.maps.get? (Address.key address) = some m) (traces : List Json) :
    (s.run (traces.map .loadTrace)).maps.get? (Address.key address) = some m := by
  have hops : ∀ op ∈ traces.map Operation.loadTrace, ∃ trace, op = .loadTrace trace := by
    simp
  refine run_induction (P := fun s => s.maps.get? (Address.key address) = some m) ?_ h
  intro op hop s s' hmove hs
  obtain ⟨trace, rfl⟩ := hops op hop
  cases hmove with
  | load asked served reads => exact hs
  | loadTrace asked reads => exact hs
  | keepMap asked deployed loaded resolves found => cases asked
  | identify asked deployed => cases asked
  | register asked => cases asked
  | record asked => cases asked
  | clearCache asked => cases asked

/-- **When the provider is not asked.**  Once an operation has got the code of a deployed address,
no later one asks for any spelling of the address, as long as no trace is loaded in between.  A
lookup whose source map is kept asks for nothing, whatever traces are loaded first.  And nothing
asks for a token, or anything else, that a code is registered for. -/
theorem asks_no_more (s : Session) :
    (∀ (op : Operation) (between : List Operation) (last : Operation) (address : String),
      Address.isCreation address = false → s.GetsCode address op →
      (∀ op' ∈ between, op'.isSequential = true) → last.isSequential = true →
      (∀ trace, Operation.loadTrace trace ∈ between → ∃ f, Trace.stepsOf trace = .error f) →
      ∀ other, Address.isCreation other = false →
        Text.lowerString other = Text.lowerString address →
        .fetched other ∉ ((s.run (op :: between)).apply last).events) ∧
      (∀ (q : Lookup) (m : MatchedMap), s.maps.get? (Address.key q.address) = some m →
        ∀ (traces : List Json) (other : String),
          .fetched other ∉ ((s.run (traces.map .loadTrace)).apply (.locate q)).events) ∧
      ∀ (token : String) (code : Json), s.registered.get? token = some code →
        ∀ op : Operation, op.isSequential = true → .fetched token ∉ (s.apply op).events := by
  refine ⟨?_, ?_, ?_⟩
  · intro op between last address hdeployed hgets hbetween hlast htraces other hother hlower
    have hloaded : ((s.apply op).session.run between).Loaded address := by
      refine run_induction (P := fun s => s.Loaded address) ?_ hgets.loaded
      intro op' hop' s s' hmove hs
      refine hs.move hdeployed (hbetween op' hop') ?_ hmove
      rintro trace rfl
      exact htraces trace hop'
    have hkey : Address.key address = Address.key other := by
      rw [Address.key_of_not_isCreation hdeployed, Address.key_of_not_isCreation hother, hlower]
    unfold Loaded at hloaded
    rw [hkey] at hloaded
    rw [run_cons, fetched_mem_events_iff hlast]
    exact Loaded.not_asks hloaded hother
  · intro q m hm traces other hasked
    obtain ⟨-, hnone, -⟩ := fetched_mem_events_locate_iff.mp hasked
    rw [get?_maps_run_loadTrace hm traces] at hnone
    cases hnone
  · intro token code hregistered op hop hasked
    have horigin : s.codeOrigin token = .provider := by
      cases (fetched_mem_events_iff hop).mp hasked with
      | getCode origin => exact origin
      | locate names unkept origin => exact origin
    rw [(codeOrigin_eq_provider_iff.mp horigin).2] at hregistered
    cases hregistered

namespace Sample

def constructorToken : String := "(Contract Creation - Step 1)"

/-- A session in which nothing has happened yet. -/
def unasked : Session :=
  Session.fresh (Provider.ofMembers codes) false

/-- Operations that load no trace, though one of them tries to. -/
def meanwhile : List Operation :=
  [.register constructorToken (.str "0x60016002"), .clearCache, .loadTrace .null]

/-- A session with a code under a name that has the lower case of a token. -/
def disguised : Session :=
  Session.fresh (Provider.ofMembers [("(contract creation - step 1)", .str "0x6001")]) false

end Sample

theorem asks_no_more_sample :
    .fetched "0xabc" ∉ ((Sample.unasked.run (.getCode "0xABC" :: Sample.meanwhile)).apply
        (.locate Sample.lookup)).events ∧
      .fetched "0xabc" ∉ (((Sample.unasked.run [.locate Sample.lookup]).run
        ([.arr Sample.steps].map .loadTrace)).apply (.locate Sample.lookup)).events ∧
      .fetched Sample.constructorToken ∉ ((Sample.unasked.register Sample.constructorToken
        (.str "0x60016002")).apply (.getCode Sample.constructorToken)).events := by
  have hgets : Sample.unasked.GetsCode "0xABC" (.getCode "0xABC") := by
    have hanswers : (Sample.unasked.getCode "0xABC").answer.toOption.isSome = true := by
      decide +kernel
    cases hcode : (Sample.unasked.getCode "0xABC").answer with
    | error f =>
        rw [hcode] at hanswers
        cases hanswers
    | ok code => exact .getCode hcode
  have hmeanwhile : ∀ trace, Operation.loadTrace trace ∈ Sample.meanwhile →
      ∃ f, Trace.stepsOf trace = .error f := by
    intro trace htrace
    simp only [Sample.meanwhile, List.mem_cons, reduceCtorEq, false_or, Operation.loadTrace.injEq,
      List.not_mem_nil, or_false] at htrace
    subst htrace
    exact ⟨_, rfl⟩
  obtain ⟨m, hm⟩ := Option.isSome_iff_exists.mp (show
    ((Sample.unasked.run [.locate Sample.lookup]).maps.get?
      (Address.key Sample.lookup.address)).isSome = true by decide +kernel)
  refine ⟨?_, ?_, ?_⟩
  · exact (asks_no_more Sample.unasked).1 _ Sample.meanwhile _ "0xABC" (by decide) hgets
      (by decide) rfl hmeanwhile "0xabc" (by decide) (by decide)
  · exact (asks_no_more _).2.1 Sample.lookup m hm [.arr Sample.steps] "0xabc"
  · exact (asks_no_more _).2.2 Sample.constructorToken (.str "0x60016002")
      (Table.get?_put_self _ _ _) _ rfl

/-- A creation token is asked for although a code was got for an address with the same lower
case. -/
theorem token_asked_again :
    Address.isCreation "(contract creation - step 1)" = false ∧
      Text.lowerString Sample.constructorToken =
        Text.lowerString "(contract creation - step 1)" ∧
      (Sample.disguised.getCode "(contract creation - step 1)").answer.toOption.isSome = true ∧
      .fetched Sample.constructorToken ∈
        ((Sample.disguised.run [.getCode "(contract creation - step 1)"]).apply
          (.getCode Sample.constructorToken)).events := by
  decide +kernel

end Session

end EvmLocator
