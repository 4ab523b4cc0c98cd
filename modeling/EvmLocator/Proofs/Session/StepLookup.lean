import EvmLocator.Proofs.Catalog.Attribution
import EvmLocator.Proofs.Session.Loading
import EvmLocator.Proofs.Session.Uncached

/-!
# What a lookup by step answers

The first lookup of a session passes four stages: it loads the code of the address, attributes the
code to a contract, finds the instruction at which the step stands, and reads the contract's source
map at the index of that instruction.  A session does so in pieces, through a waiting point and
tables that it fills on the way.  Here the pieces are put together into one function of what the
session was given, and the function is read off as conditions on the code, the catalog, the trace
and the source map.

## Main results

* `answer_locate_prepared`: the answer of a first lookup as one function.
* `answer_locate_step_iff`: when a location is answered and which, and otherwise which fault.
-/

namespace EvmLocator

open Bytecode Instruction

/-! ## One function for the stages -/

/-- The location of an instruction of an artifact, given by its index. -/
def Artifact.locationAt (a : Artifact) (index : Nat) : Except Fault Location :=
  match a.sourceMap with
  | none => .error (.sourceMap (.notText Json.null.kindWord))
  | some map => match SourceMap.atIndex (.num index) map.toList with
    | .ok location => .ok location
    | .error e => .error (.ofMap e)

/-- What a lookup by step answers once the code of its address is loaded. -/
def answerOf (steps : List Json) (address : String) (step : Integer) (source : CatalogSource)
    (code : LoadedCode) : Except Fault Location :=
  match source.resolve with
  | .error e => .error (.catalog e)
  | .ok catalog =>
    match (Catalog.search code.bytecode (catalog.candidates (Address.isCreation address))).1 with
    | none => .error (.noSourceMap address)
    | some a => match indexOfStep steps address step code with
      | .error f => .error f
      | .ok index => a.locationAt index

/-- What the first lookup by step of a session answers. -/
def firstAnswer (codes registrations : List (String × Json)) (steps : List Json)
    (address : String) (step : Integer) (source : CatalogSource) : Except Fault Location :=
  match freshCode codes registrations address with
  | .error f => .error f
  | .ok code => answerOf steps address step source code

/-- With its code loaded, a lookup by step reads the location of an artifact. -/
theorem answerFrom_eq_answerOf (steps : List Json) (address : String) (step : Integer)
    (source : CatalogSource) (code : LoadedCode) :
    Lookup.answerFrom { address, target := .step step, catalog := source } steps code =
      answerOf steps address step source code := by
  simp only [Lookup.answerFrom, answerOf]
  cases source.resolve with
  | error e => rfl
  | ok catalog =>
      simp only [Session.findMap]
      cases (Catalog.search code.bytecode
        (catalog.candidates (Address.isCreation address))).1 with
      | none => rfl
      | some a =>
          simp only [Option.map_some, Lookup.locationIn]
          cases indexOfStep steps address step code with
          | error f => rfl
          | ok index => rfl

/-- A prepared session has kept nothing. -/
theorem bare_prepared (provider : Provider) (debug : Bool) (steps : List Json)
    (registrations : List (String × Json)) :
    (Session.prepared provider debug steps registrations).bare =
      Session.prepared provider debug steps registrations := by
  rw [prepared_eq]
  rfl

theorem trace_prepared (provider : Provider) (debug : Bool) (steps : List Json)
    (registrations : List (String × Json)) :
    (Session.prepared provider debug steps registrations).trace = steps := by
  rw [prepared_eq]

/-- A prepared session serves the code that its entries give. -/
theorem served_prepared (codes registrations : List (String × Json)) (debug : Bool)
    (steps : List Json) (address : String) :
    (Session.prepared (Provider.ofMembers codes) debug steps registrations).served address =
      match servedCode codes registrations address with
      | some code => .ok code
      | none => .error (.unrecorded address) := by
  rw [prepared_eq, Session.served, servedCode_eq]
  cases (Table.ofEntries registrations).get? address with
  | some code => rfl
  | none => rfl

/-- The first lookup of a session loads a code and goes on from it. -/
theorem answer_locate_prepared_eq (codes registrations : List (String × Json)) (debug : Bool)
    (steps : List Json) (q : Lookup) :
    ((Session.prepared (Provider.ofMembers codes) debug steps registrations).locate q).answer =
      match freshCode codes registrations q.address with
      | .error f => .error f
      | .ok code => q.answerFrom steps code := by
  rw [← bare_prepared, Session.answer_locate_bare, Session.uncached, served_prepared, freshCode,
    trace_prepared]
  cases servedCode codes registrations q.address with
  | none => rfl
  | some code => rfl

/-- The first lookup of a session answers what the stages give one after another. -/
theorem answer_locate_prepared (codes registrations : List (String × Json)) (debug : Bool)
    (steps : List Json) (address : String) (step : Integer) (source : CatalogSource) :
    ((Session.prepared (Provider.ofMembers codes) debug steps registrations).locate
        { address, target := .step step, catalog := source }).answer =
      firstAnswer codes registrations steps address step source := by
  rw [answer_locate_prepared_eq, firstAnswer]
  cases freshCode codes registrations address with
  | error f => rfl
  | ok code => exact answerFrom_eq_answerOf steps address step source code

/-! ## Reading the function off -/

theorem locationAt_eq_ok_iff {a : Artifact} {index : Nat} {location : Location} :
    a.locationAt index = .ok location ↔
      ∃ map, a.sourceMap = some map ∧
        SourceMap.atIndex (.num index) map.toList = .ok location := by
  unfold Artifact.locationAt
  cases a.sourceMap with
  | none => simp
  | some map =>
      simp only [Option.some.injEq, exists_eq_left']
      cases SourceMap.atIndex (.num index) map.toList with
      | ok found => simp
      | error e => simp

theorem locationAt_eq_error_iff {a : Artifact} {index : Nat} {f : Fault} :
    a.locationAt index = .error f ↔
      (a.sourceMap = none ∧ f = .sourceMap (.notText Json.null.kindWord)) ∨
        ∃ map e, a.sourceMap = some map ∧
          SourceMap.atIndex (.num index) map.toList = .error e ∧ f = .ofMap e := by
  unfold Artifact.locationAt
  cases a.sourceMap with
  | none => simp [eq_comm]
  | some map =>
      simp only [reduceCtorEq, false_and, false_or, Option.some.injEq]
      cases h : SourceMap.atIndex (.num index) map.toList with
      | ok found => simp [h]
      | error e => simp [h, eq_comm]

/-- Whether the code of an address spells bytes and is attributed to an artifact. -/
inductive Matched (codes registrations : List (String × Json)) (source : CatalogSource)
    (address : String) (bytes : List UInt8) (a : Artifact) : Prop where
  | intro (text : List Char) (catalog : Catalog)
      (loads : Loads codes registrations address text bytes)
      (resolves : source.resolve = .ok catalog)
      (attributed : catalog.Attributes (Address.isCreation address) (normalize text) a)

/-- When the first lookup by step of a session answers a location: the code of the address is
attributed to an artifact, the step stands at an instruction of the code, and the artifact's source
map gives the location at the number of instructions before that one. -/
inductive StepFinds (codes registrations : List (String × Json)) (steps : List Json)
    (address : String) (step : Integer) (source : CatalogSource) : Location → Prop where
  | found {bytes : List UInt8} {a : Artifact} {pc : Scalar} {i : Instruction} {map : String}
      {location : Location} (matched : Matched codes registrations source address bytes a)
      (stands : StandsAt steps step pc) (mem : i ∈ sweep 0 bytes)
      (same : pc.same (.int i.pc) = true) (present : a.sourceMap = some map)
      (located : SourceMap.atIndex (.num (countBefore (sweep 0 bytes) i.pc)) map.toList =
        .ok location) :
      StepFinds codes registrations steps address step source location

/-- Why it answers none.  A fault of a later stage presupposes that the stages before it were
passed. -/
inductive StepFails (codes registrations : List (String × Json)) (steps : List Json)
    (address : String) (step : Integer) (source : CatalogSource) : Fault → Prop where
  | code {f : Fault} (cannot : CannotLoad codes registrations address f) :
      StepFails codes registrations steps address step source f
  | catalog {text : List Char} {bytes : List UInt8} {e : SchemaError}
      (loads : Loads codes registrations address text bytes)
      (refused : source.resolve = .error e) :
      StepFails codes registrations steps address step source (.catalog e)
  | unmatched {text : List Char} {bytes : List UInt8} {catalog : Catalog}
      (loads : Loads codes registrations address text bytes)
      (resolves : source.resolve = .ok catalog)
      (nobody : ∀ entry ∈ catalog.contracts, ∀ a,
        ¬ Accounts (Address.isCreation address) (normalize text) entry.2.2 a) :
      StepFails codes registrations steps address step source (.noSourceMap address)
  | trace {bytes : List UInt8} {a : Artifact} {f : Fault}
      (matched : Matched codes registrations source address bytes a)
      (nowhere : LeadsNowhere steps step (sweep 0 bytes) address f) :
      StepFails codes registrations steps address step source f
  | noMap {bytes : List UInt8} {a : Artifact} {pc : Scalar} {i : Instruction}
      (matched : Matched codes registrations source address bytes a)
      (stands : StandsAt steps step pc) (mem : i ∈ sweep 0 bytes)
      (same : pc.same (.int i.pc) = true) (absent : a.sourceMap = none) :
      StepFails codes registrations steps address step source
        (.sourceMap (.notText Json.null.kindWord))
  | sourceMap {bytes : List UInt8} {a : Artifact} {pc : Scalar} {i : Instruction} {map : String}
      {e : SourceMap.Error} (matched : Matched codes registrations source address bytes a)
      (stands : StandsAt steps step pc) (mem : i ∈ sweep 0 bytes)
      (same : pc.same (.int i.pc) = true) (present : a.sourceMap = some map)
      (refused : SourceMap.atIndex (.num (countBefore (sweep 0 bytes) i.pc)) map.toList =
        .error e) :
      StepFails codes registrations steps address step source (.ofMap e)

section

variable {codes registrations : List (String × Json)} {steps : List Json} {address : String}
  {step : Integer} {source : CatalogSource} {text : List Char} {bytes : List UInt8} {a : Artifact}

theorem firstAnswer_of_loads (h : Loads codes registrations address text bytes) :
    firstAnswer codes registrations steps address step source =
      answerOf steps address step source (LoadedCode.ofBytes text bytes) := by
  rw [firstAnswer, freshCode_of_loads h]

/-- Once the code is attributed, the trace and the source map decide. -/
theorem firstAnswer_of_matched (h : Matched codes registrations source address bytes a)
    (steps : List Json) (step : Integer) :
    ∃ code : LoadedCode, code.indexByPc = Instruction.indexByPc (sweep 0 bytes) ∧
      firstAnswer codes registrations steps address step source =
        match indexOfStep steps address step code with
        | .error f => .error f
        | .ok index => a.locationAt index := by
  obtain ⟨text, catalog, hloads, hresolve, hattributes⟩ := h
  refine ⟨LoadedCode.ofBytes text bytes, indexByPc_ofBytes text bytes, ?_⟩
  rw [firstAnswer_of_loads hloads]
  simp only [answerOf, hresolve, bytecode_ofBytes,
    Catalog.fst_search_eq_some_iff.mpr hattributes]

theorem firstAnswer_of_stands {pc : Scalar} {i : Instruction}
    (h : Matched codes registrations source address bytes a) (hstands : StandsAt steps step pc)
    (hmem : i ∈ sweep 0 bytes) (hsame : pc.same (.int i.pc) = true) :
    firstAnswer codes registrations steps address step source =
      a.locationAt (countBefore (sweep 0 bytes) i.pc) := by
  obtain ⟨code, hcode, hanswer⟩ := firstAnswer_of_matched h steps step
  rw [hanswer, ((indexOfStep_iff hcode (pairwise_sweep 0 bytes) steps step address).1 _).mpr
    ⟨pc, hstands, i, hmem, hsame, rfl⟩]

theorem firstAnswer_of_finds {location : Location}
    (h : StepFinds codes registrations steps address step source location) :
    firstAnswer codes registrations steps address step source = .ok location := by
  cases h with
  | found matched stands mem same present located =>
      rw [firstAnswer_of_stands matched stands mem same, locationAt_eq_ok_iff]
      exact ⟨_, present, located⟩

theorem firstAnswer_of_fails {f : Fault}
    (h : StepFails codes registrations steps address step source f) :
    firstAnswer codes registrations steps address step source = .error f := by
  cases h with
  | code cannot => rw [firstAnswer, freshCode_of_cannotLoad cannot]
  | catalog loads refused => rw [firstAnswer_of_loads loads, answerOf, refused]
  | unmatched loads resolves nobody =>
      rw [firstAnswer_of_loads loads]
      simp only [answerOf, resolves, bytecode_ofBytes,
        Catalog.fst_search_eq_none_iff.mpr nobody]
  | trace matched nowhere =>
      obtain ⟨code, hcode, hanswer⟩ := firstAnswer_of_matched matched steps step
      rw [hanswer, indexOfStep_of_leadsNowhere hcode nowhere]
  | noMap matched stands mem same absent =>
      rw [firstAnswer_of_stands matched stands mem same, locationAt_eq_error_iff]
      exact Or.inl ⟨absent, rfl⟩
  | sourceMap matched stands mem same present refused =>
      rw [firstAnswer_of_stands matched stands mem same, locationAt_eq_error_iff]
      exact Or.inr ⟨_, _, present, refused, rfl⟩

/-- A lookup finds a location or fails for one of the reasons. -/
theorem finds_or_fails (codes registrations : List (String × Json)) (steps : List Json)
    (address : String) (step : Integer) (source : CatalogSource) :
    (∃ location, StepFinds codes registrations steps address step source location) ∨
      ∃ f, StepFails codes registrations steps address step source f := by
  rcases loads_or_cannotLoad codes registrations address with ⟨text, bytes, hloads⟩ | ⟨f, hf⟩
  · cases hresolve : source.resolve with
    | error e => exact Or.inr ⟨_, .catalog hloads hresolve⟩
    | ok catalog =>
        rcases catalog.attributes_or_not_accounts (Address.isCreation address) (normalize text)
          with ⟨a, ha⟩ | hnobody
        · have hmatched : Matched codes registrations source address bytes a :=
            ⟨text, catalog, hloads, hresolve, ha⟩
          rcases leads_or_leadsNowhere steps step (sweep 0 bytes) address
            with ⟨pc, hstands, i, hmem, hsame⟩ | ⟨f, hf⟩
          · cases hmap : a.sourceMap with
            | none => exact Or.inr ⟨_, .noMap hmatched hstands hmem hsame hmap⟩
            | some map =>
                cases hlocated : SourceMap.atIndex
                    (.num (countBefore (sweep 0 bytes) i.pc)) map.toList with
                | error e =>
                    exact Or.inr ⟨_, .sourceMap hmatched hstands hmem hsame hmap hlocated⟩
                | ok location =>
                    exact Or.inl ⟨_, .found hmatched hstands hmem hsame hmap hlocated⟩
          · exact Or.inr ⟨f, .trace hmatched hf⟩
        · exact Or.inr ⟨_, .unmatched hloads hresolve hnobody⟩
  · exact Or.inr ⟨f, .code hf⟩

/-- The stages one after another, as conditions on what the session was given. -/
theorem firstAnswer_iff (codes registrations : List (String × Json)) (steps : List Json)
    (address : String) (step : Integer) (source : CatalogSource) :
    (∀ location, firstAnswer codes registrations steps address step source = .ok location ↔
      StepFinds codes registrations steps address step source location) ∧
      ∀ f, firstAnswer codes registrations steps address step source = .error f ↔
        StepFails codes registrations steps address step source f :=
  iff_of_exhaustive (fun _ => firstAnswer_of_finds) (fun _ => firstAnswer_of_fails)
    (finds_or_fails codes registrations steps address step source)

end

/-! ## The main result -/

/-- **What a lookup by step answers.**  The first lookup of a session answers a location exactly if
the code, the catalog, the trace and the source map lead to it, and otherwise the fault of the
first stage that cannot be passed. -/
theorem answer_locate_step_iff (codes registrations : List (String × Json)) (debug : Bool)
    (steps : List Json) (address : String) (step : Integer) (source : CatalogSource) :
    (∀ location,
      ((Session.prepared (Provider.ofMembers codes) debug steps registrations).locate
          { address, target := .step step, catalog := source }).answer = .ok location ↔
        StepFinds codes registrations steps address step source location) ∧
      ∀ f,
        ((Session.prepared (Provider.ofMembers codes) debug steps registrations).locate
            { address, target := .step step, catalog := source }).answer = .error f ↔
          StepFails codes registrations steps address step source f := by
  rw [answer_locate_prepared]
  exact firstAnswer_iff codes registrations steps address step source

end EvmLocator
