import EvmLocator.Proofs.Catalog.Attribution
import EvmLocator.Proofs.Session.Faithful
import EvmLocator.Proofs.Session.Representation
import EvmLocator.Proofs.Session.Stages

/-!
# Where a source map that is kept comes from

A source map is kept with the generated sources beside it, and both are shown to different callers:
lookups read the one, the accessor hands out the other.  They belong together only if they were
taken from one artifact, and they belong to the address only if that artifact accounts for the
address's code.

Between the loading of a code and the keeping of a source map, other lookups may run.  So the
invariant has two halves: a code that is loaded under the key of an address is the provider's for
that key, and a source map that is kept under the key is that of an artifact to which such a code is
attributed, by the catalog of a lookup with that key (`Provenance`).  The lookups that count are all
that have been asked for, since a source map stays until the source maps are forgotten.

No more is assumed of the provider than that it stays the same.  One that takes addresses of one key
for different ones gives a code for a spelling of the key; otherwise it gives it for the key itself.

## Main results

* `Attested.move`: a move of an ordinary operation keeps the provenance of what is kept.
* `exists_map_of_locate`: a lookup that answers leaves the source map that it has answered from.
* `provenance_run`: where every source map comes from, and whose generated sources are shown.
-/

namespace EvmLocator

/-- Whether a provider gives a code for some address with a given key. -/
def Provider.Gives (p : Provider) (key : String) (code : Json) : Prop :=
  ∃ address, Address.key address = key ∧ p.fetch address = .ok code

/-- A provider that compares addresses by their keys gives a code for the key itself. -/
theorem Provider.Gives.fetch_key {p : Provider} {key : String} {code : Json} (h : p.Gives key code)
    (hdeployed : Address.isCreation key = false) (hp : p.CaseBlind) : p.fetch key = .ok code := by
  obtain ⟨address, rfl, hfetch⟩ := h
  rw [Address.isCreation_key] at hdeployed
  exact hp hdeployed (Address.key_key address).symm hfetch

namespace Session

/-- Where a source map that is kept under a key comes from: with its generated sources it is that of
the deployed artifact of the first contract that accounts for the provider's code, in the catalog of
a lookup that was asked for an address with the key. -/
inductive Provenance (provider : Provider) (requests : List Lookup) (key : String) :
    MatchedMap → Prop
  | artifact {q : Lookup} {catalog : Catalog} {code : Json} {text : List Char} {a : Artifact}
      (deployed : Address.isCreation key = false) (asked : q ∈ requests)
      (sameKey : Address.key q.address = key) (resolves : q.catalog.resolve = .ok catalog)
      (gives : provider.Gives key code)
      (exact : provider.CaseBlind → provider.fetch key = .ok code)
      (reads : LoadedCode.textOf code = .ok text)
      (attributed : catalog.Attributes false text a) :
      Provenance provider requests key
        { map := a.sourceMap, generatedSources := a.generatedSources }

/-- Whether what a session keeps for deployed addresses can be traced back to its provider and to
the lookups that were asked for. -/
structure Attested (provider : Provider) (requests : List Lookup) (s : Session) : Prop where
  given : s.provider = provider
  tokens : ∀ token code, s.registered.get? token = some code → Address.isCreation token = true
  codes : ∀ key loaded, (key, loaded) ∈ s.codes → Address.isCreation key = false →
    ∃ code text, provider.Gives key code ∧ LoadedCode.textOf code = .ok text ∧
      loaded.bytecode = Bytecode.normalize text
  maps : ∀ key m, (key, m) ∈ s.maps → Provenance provider requests key m

section

variable {provider : Provider} {requests : List Lookup} {s s' : Session} {op : Operation}
  {address : String}

theorem attested_fresh (provider : Provider) (debug : Bool) (requests : List Lookup) :
    Attested provider requests (Session.fresh provider debug) where
  given := rfl
  tokens := fun token code h => by cases h
  codes := fun key loaded h => by cases h
  maps := fun key m h => by cases h

/-- The source map that is found for a code is that of the artifact that it is attributed to. -/
theorem fst_findMap_eq_some_iff {observed : List Char} {catalog : Catalog} {m : MatchedMap} :
    (findMap address observed catalog).1 = some m ↔
      ∃ a, catalog.Attributes (Address.isCreation address) observed a ∧
        { map := a.sourceMap, generatedSources := a.generatedSources } = m := by
  simp only [findMap, Option.map_eq_some_iff, Catalog.fst_search_eq_some_iff]

/-! ## What the moves keep -/

theorem Attested.load (h : s.Attested provider requests) {code : Json} {loaded : LoadedCode}
    (hserved : s.served address = .ok code)
    (hreads : LoadedCode.ofJson address code = .ok loaded) :
    Attested provider requests { s with codes := s.codes.put (Address.key address) loaded } := by
  refine { given := h.given, tokens := h.tokens, codes := ?_, maps := h.maps }
  intro key found hfound hdeployed
  rcases Table.mem_put hfound with hfound | ⟨rfl, rfl⟩
  · exact h.codes key found hfound hdeployed
  · rw [Address.isCreation_key] at hdeployed
    have hnone := registered_eq_none_of_tokens h.tokens hdeployed
    rw [served_of_not_registered hnone, h.given] at hserved
    obtain ⟨text, htext, hload⟩ := LoadedCode.ofJson_eq_ok_iff.mp hreads
    exact ⟨code, text, ⟨address, rfl, hserved⟩, htext, LoadedCode.bytecode_of_ofText hload⟩

theorem Attested.keepMap (h : s.Attested provider requests) {q : Lookup} {loaded : LoadedCode}
    {catalog : Catalog} {m : MatchedMap} (hasked : q ∈ requests)
    (hdeployed : Address.isCreation q.address = false)
    (hloaded : s.codes.get? (Address.key q.address) = some loaded)
    (hresolve : q.catalog.resolve = .ok catalog)
    (hfound : (findMap q.address loaded.bytecode catalog).1 = some m) :
    Attested provider requests { s with maps := s.maps.put (Address.key q.address) m } := by
  refine { given := h.given, tokens := h.tokens, codes := h.codes, maps := ?_ }
  intro key found hmem
  rcases Table.mem_put hmem with hmem | ⟨rfl, rfl⟩
  · exact h.maps key found hmem
  · have hkey : Address.isCreation (Address.key q.address) = false := by
      rw [Address.isCreation_key, hdeployed]
    have hkept := Table.mem_of_get? hloaded
    obtain ⟨code, text, hgives, htext, hbytecode⟩ := h.codes _ loaded hkept hkey
    obtain ⟨a, hattributes, rfl⟩ := fst_findMap_eq_some_iff.mp hfound
    rw [hdeployed, hbytecode, Catalog.attributes_normalize] at hattributes
    exact .artifact hkey hasked rfl hresolve hgives (hgives.fetch_key hkey) htext hattributes

/-- A move of an ordinary operation keeps the provenance of what is kept. -/
theorem Attested.move (h : s.Attested provider requests) (hop : op.isOrdinary = true)
    (hasked : op.lookups ⊆ requests) (hmove : Moves op s s') : s'.Attested provider requests := by
  cases hmove with
  | load asked served reads => exact h.load served reads
  | keepMap asked deployed loaded resolves found =>
      exact h.keepMap (hasked asked) deployed loaded resolves found
  | identify asked deployed =>
      subst asked
      cases hop
  | loadTrace asked reads =>
      exact
        { given := h.given
          tokens := fun token code hregistered => by cases hregistered
          codes := fun key loaded hloaded => by cases hloaded
          maps := h.maps }
  | register asked =>
      subst asked
      exact
        { given := h.given
          tokens := tokens_register hop _ h.tokens
          codes := fun key loaded hloaded => h.codes key loaded (Table.mem_of_mem_erase hloaded)
          maps := h.maps }
  | record asked =>
      subst asked
      cases hop
  | clearCache asked =>
      exact
        { given := h.given
          tokens := h.tokens
          codes := h.codes
          maps := fun key m hm => by cases hm }

theorem attested_run (provider : Provider) (debug : Bool) {ops : List Operation}
    (hops : ∀ op ∈ ops, op.isOrdinary = true) :
    Attested provider (ops.flatMap Operation.lookups)
      ((Session.fresh provider debug).run ops) := by
  refine run_induction ?_ (attested_fresh provider debug _)
  intro op hop s s' hmove h
  exact h.move (hops op hop) (fun q hq => List.mem_flatMap_of_mem hop hq) hmove

/-! ## What is shown -/

theorem Moves.debug_eq (h : Moves op s s') : s'.debug = s.debug := by
  cases h <;> rfl

/-- Whether generated sources are shown is settled when a session begins. -/
theorem debug_run (s : Session) (ops : List Operation) : (s.run ops).debug = s.debug :=
  run_induction (P := fun s' => s'.debug = s.debug)
    (fun _ _ _ _ hmove h => hmove.debug_eq.trans h) rfl

/-- The end of a lookup that answers leaves the source map that it has answered from. -/
theorem exists_map_of_complete {q : Lookup} (hdeployed : Address.isCreation q.address = false)
    {outcome : Except Fault LoadedCode} {location : Location}
    (h : (s.complete q outcome).answer = .ok location) :
    ∃ m, (s.complete q outcome).session.maps.get? (Address.key q.address) = some m ∧
      (s.complete q outcome).session.answer q m = .ok location := by
  have hend := completion s q outcome
  generalize s.complete q outcome = step at hend h ⊢
  cases hend with
  | noCode f => cases h
  | noCatalog fails => cases h
  | unmatched resolves found => cases h
  | @attributed code catalog m events after resolves found writes =>
      refine ⟨m, ?_, h⟩
      simp only [writes, hdeployed, Bool.false_eq_true, ↓reduceIte]
      exact Table.get?_put_self _ _ _

/-- A lookup that answers leaves the source map that it has answered from. -/
theorem exists_map_of_locate {q : Lookup} (hdeployed : Address.isCreation q.address = false)
    {location : Location} (h : (s.locate q).answer = .ok location) :
    ∃ m, (s.locate q).session.maps.get? (Address.key q.address) = some m ∧
      (s.locate q).session.answer q m = .ok location := by
  cases hmap : s.maps.get? (Address.key q.address) with
  | some m =>
      rw [locate_of_map hmap] at h ⊢
      exact ⟨m, hmap, h⟩
  | none =>
      rw [locate_of_no_map hmap] at h ⊢
      exact exists_map_of_complete hdeployed h

/-- Whether the generated sources that a session shows for an address are those of the contract
whose source map answers the lookups of the address: the one that is kept, if one is, and else the
one that a lookup leaves when it answers. -/
structure ShowsAnswering (s : Session) (address : String) : Prop where
  kept : ∀ m, s.maps.get? (Address.key address) = some m →
    s.generatedSources address = m.generatedSources ∧
      ∀ q : Lookup, Address.key q.address = Address.key address →
        s.locate q = { answer := s.answer q m, session := s }
  unkept : s.maps.get? (Address.key address) = none → s.generatedSources address = none
  answered : ∀ (q : Lookup) (location : Location), Address.isCreation q.address = false →
    Address.key q.address = Address.key address → (s.locate q).answer = .ok location →
      ∃ m, (s.locate q).session.maps.get? (Address.key address) = some m ∧
        (s.locate q).session.answer q m = .ok location ∧
        (s.locate q).session.generatedSources address = m.generatedSources

theorem generatedSources_of_map (hdebug : s.debug = true) {m : MatchedMap}
    (h : s.maps.get? (Address.key address) = some m) :
    s.generatedSources address = m.generatedSources := by
  rw [generatedSources, if_pos hdebug, h]
  rfl

theorem showsAnswering (hdebug : s.debug = true) (address : String) :
    s.ShowsAnswering address where
  kept := by
    intro m hm
    refine ⟨generatedSources_of_map hdebug hm, ?_⟩
    intro q hkey
    rw [← hkey] at hm
    exact locate_of_map hm
  unkept := by
    intro hnone
    rw [generatedSources, hnone]
    split <;> rfl
  answered := by
    intro q location hdeployed hkey hanswer
    obtain ⟨m, hm, hlocation⟩ := exists_map_of_locate hdeployed hanswer
    have hafter : (s.locate q).session.debug = true := by
      rw [← hdebug]
      exact debug_run s [.locate q]
    rw [hkey] at hm
    exact ⟨m, hm, hlocation, generatedSources_of_map hafter hm⟩

/-- **Where a source map that is kept comes from.**  After ordinary operations every source map that
is kept under a key is that of one artifact, with the generated sources of the same: the deployed
artifact of the first contract that accounts for the provider's code of the key, in the catalog of a
lookup that was asked for an address with the key.  So a session that shows generated sources shows
those of the contract whose source map answers lookups, and one that does not never shows any. -/
theorem provenance_run (provider : Provider) (debug : Bool) (ops : List Operation) :
    ((∀ op ∈ ops, op.isOrdinary = true) →
      ∀ key m, (key, m) ∈ ((Session.fresh provider debug).run ops).maps →
        Provenance provider (ops.flatMap Operation.lookups) key m) ∧
      (debug = true →
        ∀ address, ((Session.fresh provider debug).run ops).ShowsAnswering address) ∧
      (debug = false →
        ∀ address, ((Session.fresh provider debug).run ops).generatedSources address = none) := by
  have hdebug : ((Session.fresh provider debug).run ops).debug = debug := debug_run _ ops
  refine ⟨fun hops => (attested_run provider debug hops).maps, ?_, ?_⟩
  · intro htrue address
    exact showsAnswering (hdebug.trans htrue) address
  · intro hfalse address
    rw [generatedSources, hdebug, hfalse]
    rfl

end

namespace Sample

/-- The deployed contract with a source that the compiler has added. -/
def assembled : Lookup :=
  { address := "0xABC"
    target := .index (.num 1)
    catalog := .catalog { files := [("C.sol", [("Baz",
      { name := "Baz"
        creation := none
        deployed := some
          { object := "6001600201", sourceMap := some "4:2:1:-;6"
            generatedSources := some
              [{ id := .num 1, ast := .null, contents := some "\x7b \x7d"
                 name := .str "#utility.yul", language := .str "Yul" }]
            immutables := [], links := [] } })])] } }

/-- Two lookups of one address: the later one is answered from what the earlier one has left. -/
def relocated : List Operation :=
  [.locate assembled, .locate lookup]

end Sample

theorem provenance_run_sample :
    (∀ op ∈ Sample.relocated, op.isOrdinary = true) ∧
      (∃ m, Provenance (Provider.ofMembers Sample.codes) [Sample.assembled, Sample.lookup]
          (Address.key "0xABC") m ∧ m.map = some "4:2:1:-;6" ∧
        ((Session.fresh (Provider.ofMembers Sample.codes) true).run
          Sample.relocated).generatedSources "0xABC" = m.generatedSources) ∧
      ((Session.fresh (Provider.ofMembers Sample.codes) false).run
        Sample.relocated).generatedSources "0xABC" = none := by
  have hops : ∀ op ∈ Sample.relocated, op.isOrdinary = true := by decide
  have hkept : (((Session.fresh (Provider.ofMembers Sample.codes) true).run
      Sample.relocated).maps.get? (Address.key "0xABC")).map MatchedMap.map =
        some (some "4:2:1:-;6") := by decide +kernel
  obtain ⟨m, hm, hmap⟩ := Option.map_eq_some_iff.mp hkept
  obtain ⟨hmaps, hshown, -⟩ :=
    provenance_run (Provider.ofMembers Sample.codes) true Sample.relocated
  refine ⟨hops, ⟨m, ?_, hmap, ?_⟩, ?_⟩
  · exact hmaps hops _ m (Table.mem_of_get? hm)
  · exact ((hshown rfl "0xABC").kept m hm).1
  · exact (provenance_run (Provider.ofMembers Sample.codes) false Sample.relocated).2.2 rfl "0xABC"

end Session

end EvmLocator
