import EvmLocator.Proofs.Session.Stages
import EvmLocator.Proofs.Session.Transparency

/-!
# The spelling of an address does not matter

Every table of a session compares addresses in its own way.  Loaded codes and source maps go by
`Address.key`, registrations by the text as it is, and a recorded provider by the lower case.  Two
spellings of an address are told apart by the second of these, if at all, and only a token can be
registered.

The proof is by one spelling that stands for all of them: every operation is compared with the same
operation with keys for addresses (`Operation.keyed`).  From the same session the two lead to the
same session, and answer the same but for the addresses that a fault or an event names, which are
keys in the one (`apply_keyed`).  This is shown piece by piece, each piece commuting with `keyed`,
so no piece is run twice in one argument.

## Main results

* `Address.alike_iff`: two addresses are alike exactly if they have one key.
* `apply_keyed`: what an operation does does not depend on how its addresses are spelled.
* `history_alike`: operations that are alike have the same history.
-/

namespace EvmLocator

/-! ## Spellings -/

namespace Address

/-- Whether two addresses are one: they are the same text, or neither is a creation token and they
have the same lower case. -/
def Alike (a b : String) : Prop :=
  a = b ∨ isCreation a = false ∧ isCreation b = false ∧ Text.lowerString a = Text.lowerString b

/-- Two addresses are one exactly if they have one key. -/
theorem alike_iff {a b : String} : Alike a b ↔ key a = key b := by
  constructor
  · rintro (rfl | ⟨ha, hb, hlower⟩)
    · rfl
    · rw [key_of_not_isCreation ha, key_of_not_isCreation hb, hlower]
  · intro h
    have hsame := isCreation_eq_of_key h
    cases ha : isCreation a with
    | true =>
        rw [key_of_isCreation ha, key_of_isCreation (hsame ▸ ha)] at h
        exact Or.inl h
    | false =>
        rw [key_of_not_isCreation ha, key_of_not_isCreation (hsame ▸ ha)] at h
        exact Or.inr ⟨ha, hsame ▸ ha, h⟩

/-- An address and its key have the same lower case. -/
theorem lowerString_key_eq (address : String) :
    Text.lowerString (key address) = Text.lowerString address := by
  cases h : isCreation address with
  | true => rw [key_of_isCreation h]
  | false => rw [key_of_not_isCreation h, Text.lowerString_lowerString]

end Address

/-- Whether two lookups ask for the same of one address. -/
structure Lookup.Alike (q q' : Lookup) : Prop where
  address : Address.Alike q.address q'.address
  target : q.target = q'.target
  catalog : q.catalog = q'.catalog

/-- Whether two operations are the same but for the spelling of addresses that are no tokens.  Codes
are registered for tokens, and no code is recorded anew. -/
inductive Operation.Alike : Operation → Operation → Prop
  | getCode {a b : String} (h : Address.Alike a b) : Alike (.getCode a) (.getCode b)
  | loadTrace (trace : Json) : Alike (.loadTrace trace) (.loadTrace trace)
  | register {token : String} (htoken : Address.isCreation token = true) (code : Json) :
      Alike (.register token code) (.register token code)
  | counter (step : Integer) : Alike (.counter step) (.counter step)
  | instructionIndex {a b : String} (h : Address.Alike a b) (step : Integer) :
      Alike (.instructionIndex a step) (.instructionIndex b step)
  | locate {q q' : Lookup} (h : q.Alike q') : Alike (.locate q) (.locate q')
  | generatedSources {a b : String} (h : Address.Alike a b) :
      Alike (.generatedSources a) (.generatedSources b)
  | clearCache : Alike .clearCache .clearCache
  | identify {a b : String} (h : Address.Alike a b) (code : Json) (catalog : CatalogSource) :
      Alike (.identify a code catalog) (.identify b code catalog)
  | findMap {a b : String} (h : Address.Alike a b) (code : Json) (catalog : CatalogSource) :
      Alike (.findMap a code catalog) (.findMap b code catalog)
  | gather (order : List Nat) {lookups lookups' : List Lookup}
      (h : List.Forall₂ Lookup.Alike lookups lookups') :
      Alike (.gather order lookups) (.gather order lookups')

/-! ## Keys for addresses -/

def Refusal.keyed : Refusal → Refusal
  | unrecorded address => unrecorded (Address.key address)
  | r => r

def FetchFault.keyed : FetchFault → FetchFault
  | refused r => refused r.keyed
  | reason => reason

def TraceFault.keyed : TraceFault → TraceFault
  | notLoaded address => notLoaded (Address.key address)
  | notAnInstruction pc step address => notAnInstruction pc step (Address.key address)
  | e => e

/-- A fault with keys for the addresses that it names. -/
def Fault.keyed : Fault → Fault
  | fetch address reason => fetch (Address.key address) reason.keyed
  | noSourceMap address => noSourceMap (Address.key address)
  | trace e => trace e.keyed
  | f => f

/-- What comes of something, with keys for the addresses that its fault names. -/
def keyedOutcome {α : Type} (outcome : Except Fault α) : Except Fault α :=
  outcome.mapError Fault.keyed

def Event.keyed : Event → Event
  | fetched address => fetched (Address.key address)
  | unmatched address => unmatched (Address.key address)
  | event => event

/-- A step with keys for the addresses that its fault and its events name. -/
def Step.keyed {α : Type} (step : Step α) : Step α :=
  { answer := keyedOutcome step.answer
    session := step.session
    events := step.events.map Event.keyed }

/-- A lookup of the key of its address. -/
def Lookup.keyed (q : Lookup) : Lookup :=
  { q with address := Address.key q.address }

def Progress.keyed : Progress → Progress
  | finished step => finished step.keyed
  | waiting => waiting

def Slot.keyed : Slot → Slot
  | finished answer => finished (keyedOutcome answer)
  | waiting q => waiting q.keyed

def Gathering.keyed (g : Gathering) : Gathering :=
  { session := g.session
    events := g.events.map Event.keyed
    slots := g.slots.map Slot.keyed }

/-- An operation with keys for the addresses that it asks for. -/
def Operation.keyed : Operation → Operation
  | getCode address => getCode (Address.key address)
  | instructionIndex address step => instructionIndex (Address.key address) step
  | locate q => locate q.keyed
  | generatedSources address => generatedSources (Address.key address)
  | identify address code catalog => identify (Address.key address) code catalog
  | findMap address code catalog => findMap (Address.key address) code catalog
  | gather order lookups => gather order (lookups.map Lookup.keyed)
  | op => op

/-- An answer with keys for the addresses that its faults name. -/
def Answer.keyed : Answer → Answer
  | locations answers => locations (answers.map keyedOutcome)
  | a => a

/-- A step of an operation with keys for the addresses that it names. -/
def Step.upToSpelling (step : Step Answer) : Step Answer :=
  step.keyed.map Answer.keyed

theorem Step.upToSpelling_map {α : Type} {form : α → Answer} (h : ∀ a, (form a).keyed = form a)
    (step : Step α) : (step.map form).upToSpelling = step.keyed.map form := by
  obtain ⟨answer, session, events⟩ := step
  cases answer with
  | error f => rfl
  | ok a => simp only [upToSpelling, keyed, map, keyedOutcome, Except.mapError, h]

theorem Lookup.Alike.keyed_eq {q q' : Lookup} (h : q.Alike q') : q.keyed = q'.keyed := by
  unfold Lookup.keyed
  rw [Address.alike_iff.mp h.address, h.target, h.catalog]

/-- Operations that are alike are the same with keys for addresses. -/
theorem Operation.Alike.keyed_eq {op op' : Operation} (h : op.Alike op') :
    op.keyed = op'.keyed := by
  cases h with
  | getCode h => simp only [Operation.keyed, Address.alike_iff.mp h]
  | instructionIndex h step => simp only [Operation.keyed, Address.alike_iff.mp h]
  | locate h => simp only [Operation.keyed, h.keyed_eq]
  | generatedSources h => simp only [Operation.keyed, Address.alike_iff.mp h]
  | identify h code catalog => simp only [Operation.keyed, Address.alike_iff.mp h]
  | findMap h code catalog => simp only [Operation.keyed, Address.alike_iff.mp h]
  | gather order h =>
      have hlookups : ∀ {qs qs' : List Lookup}, List.Forall₂ Lookup.Alike qs qs' →
          qs.map Lookup.keyed = qs'.map Lookup.keyed := by
        intro qs qs' h
        induction h with
        | nil => rfl
        | cons hq _ ih => rw [List.map_cons, List.map_cons, hq.keyed_eq, ih]
      simp only [Operation.keyed, hlookups h]
  | _ => rfl

/-! ## Pieces that commute with keys -/

theorem Provider.fetch_keyed (codes : Table String Json) (address : String) :
    (recorded codes).fetch (Address.key address) =
      ((recorded codes).fetch address).mapError Refusal.keyed := by
  simp only [fetch, Address.lowerString_key_eq]
  cases codes.get? (Text.lowerString address) <;> rfl

theorem LoadedCode.ofJson_keyed (address : String) (code : Json) :
    ofJson (Address.key address) code = keyedOutcome (ofJson address code) := by
  unfold ofJson
  cases textOf code with
  | error u => rfl
  | ok text =>
      simp only [ofText]
      split
      · rfl
      · cases disassemble (Bytecode.normalize text) <;> rfl

/-- The fault of a source map names no address. -/
theorem Fault.keyed_ofMap (e : SourceMap.Error) : (ofMap e).keyed = ofMap e := by
  cases e <;> rfl

theorem Fault.keyed_stepOutOfRange (step : Integer) (steps : Nat) :
    (stepOutOfRange step steps).keyed = stepOutOfRange step steps := by
  unfold stepOutOfRange
  cases step.text <;> rfl

theorem Fault.keyed_stepWithoutCounter (step : Integer) :
    (stepWithoutCounter step).keyed = stepWithoutCounter step := by
  unfold stepWithoutCounter
  cases step.text <;> rfl

/-- The fault of a program counter that is at no instruction names the address. -/
theorem Fault.keyed_stepAtNoInstruction (pc : Scalar) (step : Integer) (address : String) :
    (stepAtNoInstruction pc step address).keyed =
      stepAtNoInstruction pc step (Address.key address) := by
  unfold stepAtNoInstruction
  cases pc.text with
  | error u => rfl
  | ok counter => cases step.text <;> rfl

/-- The fault of a step without a program counter names no address. -/
theorem Trace.keyed_of_counterAt {steps : List Json} {step : Integer} {f : Fault}
    (h : counterAt steps step = .error f) : f.keyed = f := by
  unfold counterAt at h
  split at h
  · cases h
    exact Fault.keyed_stepOutOfRange _ _
  · split at h
    · cases h
      exact Fault.keyed_stepOutOfRange _ _
    · split at h
      · cases h
        exact Fault.keyed_stepWithoutCounter _
      · cases h
        exact Fault.keyed_stepWithoutCounter _
      · cases h
    · cases h
      rfl

/-- The fault of a document that is no trace names no address. -/
theorem Trace.keyed_of_stepsOf {trace : Json} {f : Fault} (h : stepsOf trace = .error f) :
    f.keyed = f := by
  unfold stepsOf at h
  cases hbody : body trace with
  | error g =>
      rw [hbody] at h
      cases h
      unfold body at hbody
      repeat' split at hbody
      all_goals cases hbody
      rfl
  | ok steps =>
      simp only [hbody, bind, Except.bind] at h
      cases hitems : itemsOf steps with
      | error u =>
          rw [hitems] at h
          cases h
          rfl
      | ok items =>
          rw [hitems] at h
          cases h

/-- The fault of a source map names no address. -/
theorem MatchedMap.locationAt_keyed (m : MatchedMap) (index : Integer) :
    keyedOutcome (m.locationAt index) = m.locationAt index := by
  unfold locationAt
  split
  · rfl
  · split
    · rfl
    · exact congrArg Except.error (Fault.keyed_ofMap _)

namespace Session

/-- Whether the codes of a session come from a table, and what is registered from outside is for
tokens. -/
structure Static (s : Session) : Prop where
  recorded : ∃ codes, s.provider = .recorded codes
  tokens : ∀ token code, s.registered.get? token = some code → Address.isCreation token = true

variable {s s' : Session}

theorem Static.of_bare (h : s.Static) (hbare : s'.bare = s.bare) : s'.Static where
  recorded := by
    have hprovider : s'.provider = s.provider := by
      show s'.bare.provider = s.bare.provider
      rw [hbare]
    rw [hprovider]
    exact h.recorded
  tokens := by
    rw [registered_eq_of_bare hbare]
    exact h.tokens

theorem Static.get?_registered_key (h : s.Static) (address : String) :
    s.registered.get? (Address.key address) = s.registered.get? address := by
  cases hcreation : Address.isCreation address with
  | true => rw [Address.key_of_isCreation hcreation]
  | false =>
      have hkey : Address.isCreation (Address.key address) = false := by
        rw [Address.isCreation_key, hcreation]
      rw [registered_eq_none_of_tokens h.tokens hcreation,
        registered_eq_none_of_tokens h.tokens hkey]

theorem keep_keyed (s : Session) (address : String) (code : Json) :
    s.keep (Address.key address) code =
      (keyedOutcome (s.keep address code).1, (s.keep address code).2) := by
  unfold keep
  rw [LoadedCode.ofJson_keyed, Address.key_key]
  cases LoadedCode.ofJson address code <;> rfl

theorem Static.fetch_keyed (h : s.Static) (address : String) :
    s.fetch (Address.key address) =
      (keyedOutcome (s.fetch address).1, (s.fetch address).2) := by
  obtain ⟨codes, hcodes⟩ := h.recorded
  unfold fetch
  rw [hcodes, Provider.fetch_keyed]
  cases (Provider.recorded codes).fetch address with
  | error r => rfl
  | ok code => exact keep_keyed s address code

theorem Static.codeOrigin_key (h : s.Static) (address : String) :
    s.codeOrigin (Address.key address) = s.codeOrigin address := by
  rw [codeOrigin, Address.isCreation_key, Address.key_key, h.get?_registered_key, codeOrigin]

theorem Static.getCode_keyed (h : s.Static) (address : String) :
    s.getCode (Address.key address) = (s.getCode address).keyed := by
  unfold getCode
  rw [h.codeOrigin_key]
  cases s.codeOrigin address with
  | loaded code => rfl
  | registered code => simp only [keep_keyed, Step.keyed, List.map_nil]
  | provider => simp only [h.fetch_keyed, Step.keyed, List.map_cons, List.map_nil, Event.keyed]

theorem instructionIndex_keyed (s : Session) (address : String) (step : Integer) :
    s.instructionIndex (Address.key address) step =
      keyedOutcome (s.instructionIndex address step) := by
  unfold instructionIndex
  rw [Address.key_key]
  cases s.codes.get? (Address.key address) with
  | none => rfl
  | some code =>
      simp only
      cases hcounter : Trace.counterAt s.trace step with
      | error f =>
          have hkeyed := Trace.keyed_of_counterAt hcounter
          simp only [bind, Except.bind, keyedOutcome, Except.mapError, hkeyed]
      | ok pc =>
          simp only [bind, Except.bind]
          cases pc.scalar? with
          | none => rfl
          | some pc =>
              simp only
              cases code.indexAt pc with
              | some index => rfl
              | none => exact congrArg Except.error (Fault.keyed_stepAtNoInstruction _ _ _).symm

theorem answer_keyed (s : Session) (q : Lookup) (m : MatchedMap) :
    s.answer q.keyed m = keyedOutcome (s.answer q m) := by
  cases htarget : q.target with
  | index index =>
      have hkeyed : q.keyed.target = .index index := htarget
      rw [answer_of_index htarget, answer_of_index hkeyed, m.locationAt_keyed]
  | step step =>
      have hkeyed : q.keyed.target = .step step := htarget
      have hindex : s.instructionIndex q.keyed.address step =
          keyedOutcome (s.instructionIndex q.address step) :=
        instructionIndex_keyed s q.address step
      rw [answer_of_step htarget, answer_of_step hkeyed, hindex]
      cases s.instructionIndex q.address step with
      | error f => rfl
      | ok index => exact (m.locationAt_keyed _).symm

/-- The events of a search name no address. -/
theorem snd_findMap_keyed (address : String) (observed : List Char) (catalog : Catalog) :
    (findMap address observed catalog).2.map Event.keyed =
      (findMap address observed catalog).2 := by
  simp only [findMap, List.map_map]
  rfl

theorem identify_keyed (s : Session) (address : String) (observed : List Char)
    (source : CatalogSource) :
    s.identify (Address.key address) observed source =
      (s.identify address observed source).keyed := by
  unfold Session.identify
  cases source.resolve with
  | error e => rfl
  | ok catalog =>
      simp only
      rw [findMap_address (Address.key_key address), Address.isCreation_key, Address.key_key]
      have hevents := snd_findMap_keyed address observed catalog
      cases hfound : findMap address observed catalog with
      | mk found events =>
          rw [hfound] at hevents
          cases found with
          | none => simp only [Step.keyed, List.map_append, hevents, List.map_cons, List.map_nil,
              Event.keyed, keyedOutcome, Except.mapError, Fault.keyed]
          | some m => simp only [Step.keyed, hevents, keyedOutcome, Except.mapError]

theorem complete_keyed (s : Session) (q : Lookup) (outcome : Except Fault LoadedCode) :
    s.complete q.keyed (keyedOutcome outcome) = (s.complete q outcome).keyed := by
  cases outcome with
  | error f => rfl
  | ok code =>
      show (Session.complete s q.keyed (.ok code)) = _
      have hidentify : s.identify q.keyed.address code.bytecode q.keyed.catalog =
          (s.identify q.address code.bytecode q.catalog).keyed :=
        identify_keyed s q.address code.bytecode q.catalog
      simp only [complete, hidentify]
      cases hanswer : (s.identify q.address code.bytecode q.catalog).answer with
      | error f => simp only [Step.keyed, hanswer, keyedOutcome, Except.mapError]
      | ok m =>
          simp only [Step.keyed, hanswer, answer_keyed]
          rfl

theorem Static.begin_keyed (h : s.Static) (q : Lookup) :
    s.begin q.keyed = (s.begin q).keyed := by
  have haddress : q.keyed.address = Address.key q.address := rfl
  unfold begin
  rw [haddress, Address.key_key, h.codeOrigin_key]
  cases s.maps.get? (Address.key q.address) with
  | some m =>
      simp only [answer_keyed]
      rfl
  | none =>
      cases s.codeOrigin q.address with
      | loaded code => exact congrArg Progress.finished (complete_keyed s q (.ok code))
      | registered code =>
          simp only [keep_keyed, complete_keyed]
          rfl
      | provider => rfl

theorem Static.resume_keyed (h : s.Static) (q : Lookup) :
    s.resume q.keyed = (s.resume q).keyed := by
  have hfetch : s.fetch q.keyed.address =
      (keyedOutcome (s.fetch q.address).1, (s.fetch q.address).2) := h.fetch_keyed q.address
  simp only [resume, hfetch, complete_keyed]

theorem Static.locate_keyed (h : s.Static) (q : Lookup) :
    s.locate q.keyed = (s.locate q).keyed := by
  unfold locate
  rw [h.begin_keyed]
  cases s.begin q with
  | finished step => rfl
  | waiting =>
      simp only [Progress.keyed, h.resume_keyed]
      rfl

theorem identifyJson_keyed (s : Session) (address : String) (code : Json)
    (source : CatalogSource) :
    s.identifyJson (Address.key address) code source =
      (s.identifyJson address code source).keyed := by
  unfold identifyJson
  cases source.resolve with
  | error e => rfl
  | ok catalog =>
      simp only [observedText, Address.isCreation_key]
      split
      · exact identify_keyed s address _ _
      · rfl

theorem findMapJson_keyed (s : Session) (address : String) (code : Json)
    (source : CatalogSource) :
    s.findMapJson (Address.key address) code source =
      (s.findMapJson address code source).keyed := by
  unfold findMapJson
  cases source.resolve with
  | error e => rfl
  | ok catalog =>
      simp only [observedText, Address.isCreation_key]
      split
      · next observed hobserved =>
          rw [findMap_address (Address.key_key address)]
          simp only [Step.keyed, snd_findMap_keyed]
          rfl
      · rfl

/-! ## Lookups side by side -/

end Session

namespace Gathering

open Session

variable {s : Session} {g : Gathering}

theorem launch_keyed (h : s.Static) (lookups : List Lookup) :
    launch s (lookups.map Lookup.keyed) = (launch s lookups).keyed := by
  induction lookups generalizing s with
  | nil => rfl
  | cons q rest ih =>
      rw [List.map_cons]
      unfold launch
      rw [h.begin_keyed]
      cases hbegin : s.begin q with
      | finished step =>
          have hbare : step.session.bare = s.bare := by
            rw [← locate_of_begin hbegin]
            exact (confined_locate s q).given
          have hrest := ih (h.of_bare hbare)
          simp only [Progress.keyed]
          have hsession : step.keyed.session = step.session := rfl
          rw [hsession, hrest]
          simp only [keyed, Step.keyed, List.map_append, List.map_cons, Slot.keyed]
      | waiting =>
          simp only [Progress.keyed, ih h, keyed, List.map_cons, Event.keyed, Slot.keyed]
          rfl

theorem resumeAt_keyed (h : g.session.Static) (i : Nat) :
    g.keyed.resumeAt i = (g.resumeAt i).keyed := by
  unfold resumeAt
  have hslot : g.keyed.slots[i]? = g.slots[i]?.map Slot.keyed := List.getElem?_map
  rw [hslot]
  cases hg : g.slots[i]? with
  | none => rfl
  | some slot =>
      cases slot with
      | finished answer => rfl
      | waiting q =>
          have hresume : g.keyed.session.resume q.keyed = (g.session.resume q).keyed :=
            h.resume_keyed q
          simp only [Option.map_some, Slot.keyed, hresume]
          simp only [keyed, Step.keyed, List.map_append, List.map_set, Slot.keyed]

theorem foldl_resumeAt_keyed (h : g.session.Static) (order : List Nat) :
    order.foldl resumeAt g.keyed = (order.foldl resumeAt g).keyed ∧
      (order.foldl resumeAt g).session.Static := by
  induction order generalizing g with
  | nil => exact ⟨rfl, h⟩
  | cons i order ih =>
      rw [List.foldl_cons, List.foldl_cons, resumeAt_keyed h]
      exact ih (h.of_bare (bare_resumeAt g i))

theorem finish_keyed (h : s.Static) (slots : List Slot) :
    finish s (slots.map Slot.keyed) =
      ((finish s slots).1, (finish s slots).2.1.map Event.keyed,
        (finish s slots).2.2.map keyedOutcome) := by
  induction slots generalizing s with
  | nil => rfl
  | cons slot rest ih =>
      cases slot with
      | finished answer => simp only [List.map_cons, Slot.keyed, finish, ih h]
      | waiting q =>
          have hrest := ih (h.of_bare (confined_resume s q).given)
          simp only [List.map_cons, Slot.keyed, finish, h.resume_keyed]
          have hsession : (s.resume q).keyed.session = (s.resume q).session := rfl
          rw [hsession, hrest]
          simp only [Step.keyed, List.map_append]

end Gathering

namespace Session

variable {s : Session}

theorem Static.gather_keyed (h : s.Static) (order : List Nat) (lookups : List Lookup) :
    (s.gather order (lookups.map Lookup.keyed)).map Answer.locations =
      ((s.gather order lookups).map Answer.locations).upToSpelling := by
  have hlaunch := h.of_bare (Gathering.bare_launch s lookups)
  obtain ⟨hresumed, hstatic⟩ := Gathering.foldl_resumeAt_keyed hlaunch order
  simp only [gather, Gathering.launch_keyed h, hresumed]
  have hfinish := Gathering.finish_keyed hstatic
    (order.foldl Gathering.resumeAt (Gathering.launch s lookups)).slots
  simp only [Gathering.keyed, hfinish]
  simp only [Step.map, Step.upToSpelling, Step.keyed, Answer.keyed, keyedOutcome, Except.mapError,
    List.map_append]

/-- **What an operation does does not depend on how its addresses are spelled.**  With keys for
addresses it leads to the same session, and answers the same but for the addresses that are
named. -/
theorem Static.apply_keyed (h : s.Static) (op : Operation) :
    s.apply op.keyed = (s.apply op).upToSpelling := by
  cases op with
  | getCode address =>
      simp only [Operation.keyed, apply, h.getCode_keyed]
      exact (Step.upToSpelling_map (fun _ => rfl) _).symm
  | loadTrace trace =>
      simp only [Operation.keyed, apply, Session.loadTrace]
      cases hsteps : Trace.stepsOf trace with
      | error f =>
          simp only [Step.upToSpelling, Step.keyed, Step.map, keyedOutcome, Except.mapError,
            Trace.keyed_of_stepsOf hsteps, List.map_nil]
      | ok steps => rfl
  | register token code => rfl
  | record address code => rfl
  | counter step =>
      simp only [Operation.keyed, apply]
      cases hcounter : Trace.counterAt s.trace step with
      | error f =>
          simp only [Except.map, Step.upToSpelling, Step.keyed, Step.map, keyedOutcome,
            Except.mapError, Trace.keyed_of_counterAt hcounter, List.map_nil]
      | ok pc => rfl
  | instructionIndex address step =>
      simp only [Operation.keyed, apply, instructionIndex_keyed]
      cases s.instructionIndex address step <;> rfl
  | locate q =>
      simp only [Operation.keyed, apply, h.locate_keyed]
      exact (Step.upToSpelling_map (fun _ => rfl) _).symm
  | generatedSources address =>
      simp only [Operation.keyed, apply, Session.generatedSources, Address.key_key]
      rfl
  | clearCache => rfl
  | identify address code source =>
      simp only [Operation.keyed, apply, identifyJson_keyed]
      exact (Step.upToSpelling_map (fun _ => rfl) _).symm
  | findMap address code source =>
      simp only [Operation.keyed, apply, findMapJson_keyed]
      exact (Step.upToSpelling_map (fun _ => rfl) _).symm
  | gather order lookups => exact h.gather_keyed order lookups

/-! ## Histories -/

/-- The steps of operations, one after another. -/
def history (s : Session) : List Operation → List (Step Answer)
  | [] => []
  | op :: ops => s.apply op :: history (s.apply op).session ops

/-- An operation that is like another leaves a session as it needs to be. -/
theorem Static.apply (h : s.Static) {op op' : Operation} (halike : op.Alike op') :
    (s.apply op).session.Static := by
  refine apply_induction ?_ h
  intro s s' hmove hs
  cases hmove with
  | load asked served reads => exact hs.of_bare rfl
  | keepMap asked deployed loaded resolves found => exact hs.of_bare rfl
  | identify asked deployed => exact hs.of_bare rfl
  | loadTrace asked reads =>
      exact { recorded := hs.recorded, tokens := fun token code hfound => by cases hfound }
  | register asked =>
      subst asked
      cases halike with
      | register htoken code =>
          exact { recorded := hs.recorded, tokens := tokens_register htoken _ hs.tokens }
  | record asked =>
      subst asked
      cases halike
  | clearCache asked => exact hs.of_bare rfl

theorem static_fresh (codes : List (String × Json)) (debug : Bool) :
    (Session.fresh (Provider.ofMembers codes) debug).Static where
  recorded := ⟨_, rfl⟩
  tokens := fun token code hregistered => by cases hregistered

theorem Static.history_eq (h : s.Static) {ops ops' : List Operation}
    (halike : List.Forall₂ Operation.Alike ops ops') :
    (s.history ops).map Step.upToSpelling = (s.history ops').map Step.upToSpelling := by
  induction halike generalizing s with
  | nil => rfl
  | @cons op op' rest rest' hop _ ih =>
      have hstep : (s.apply op).upToSpelling = (s.apply op').upToSpelling := by
        rw [← h.apply_keyed, ← h.apply_keyed, hop.keyed_eq]
      have hsession : (s.apply op).upToSpelling.session = (s.apply op').upToSpelling.session := by
        rw [hstep]
      have hnext : (s.apply op).session = (s.apply op').session := hsession
      rw [history, history, List.map_cons, List.map_cons, hstep, ih (h.apply hop), hnext]

/-- **The spelling of an address does not matter across a whole session.**  Two lists of operations
that are the same but for the spelling of addresses that are no tokens lead, one operation after
another, to the same sessions, and answer the same but for the spelling of the addresses that their
faults and events name. -/
theorem history_alike (codes : List (String × Json)) (debug : Bool) {ops ops' : List Operation}
    (halike : List.Forall₂ Operation.Alike ops ops') :
    ((Session.fresh (Provider.ofMembers codes) debug).history ops).map Step.upToSpelling =
      ((Session.fresh (Provider.ofMembers codes) debug).history ops').map Step.upToSpelling :=
  (static_fresh codes debug).history_eq halike

namespace Sample

/-- Operations that name the deployed contract, and an address without a code. -/
def naming (contract missing : String) : List Operation :=
  [.loadTrace (.arr steps), .register token (.str "0x60016002"),
    .locate { lookup with address := contract }, .getCode missing,
    .gather [0] [creation, { lookup with address := missing }], .generatedSources contract]

/-- The locations and the faults that a step answers. -/
def outcomes (step : Step Answer) : List (Except Fault Location) :=
  match step.answer with
  | .ok (.location l) => [.ok l]
  | .ok (.locations answers) => answers
  | .ok _ => []
  | .error f => [.error f]

/-- What the operations answer, by the name of the address without a code. -/
def expected (missing : String) : List (List (Except Fault Location)) :=
  let fault : Fault := .fetch missing (.refused (.unrecorded missing))
  [[], [], [.ok location], [.error fault],
    [.ok { start := some 7, length := some 1, file := some 0, jump := some "-" }, .error fault], []]

end Sample

/-- The histories of the two spellings step by step, and the answers of each in its own spelling. -/
theorem history_alike_sample :
    let history := fun contract missing =>
      (Session.fresh (Provider.ofMembers Sample.codes) true).history
        (Sample.naming contract missing)
    List.Forall₂ Operation.Alike (Sample.naming "0xABC" "0xDEF") (Sample.naming "0xabc" "0xdef") ∧
      (history "0xABC" "0xDEF").map Step.upToSpelling =
        (history "0xabc" "0xdef").map Step.upToSpelling ∧
      (history "0xABC" "0xDEF").map Sample.outcomes = Sample.expected "0xDEF" ∧
      (history "0xabc" "0xdef").map Sample.outcomes = Sample.expected "0xdef" := by
  intro history
  have hcontract : Address.Alike "0xABC" "0xabc" := Or.inr (by decide)
  have hmissing : Address.Alike "0xDEF" "0xdef" := Or.inr (by decide)
  have hlookups : List.Forall₂ Lookup.Alike
      [Sample.creation, { Sample.lookup with address := "0xDEF" }]
      [Sample.creation, { Sample.lookup with address := "0xdef" }] :=
    .cons ⟨Or.inl rfl, rfl, rfl⟩ (.cons ⟨hmissing, rfl, rfl⟩ .nil)
  have halike : List.Forall₂ Operation.Alike
      (Sample.naming "0xABC" "0xDEF") (Sample.naming "0xabc" "0xdef") :=
    .cons (.loadTrace _) (.cons (.register (by decide) _)
      (.cons (.locate ⟨hcontract, rfl, rfl⟩) (.cons (.getCode hmissing)
        (.cons (.gather _ hlookups) (.cons (.generatedSources hcontract) .nil)))))
  exact ⟨halike, history_alike Sample.codes true halike, by decide +kernel, by decide +kernel⟩

end Session

end EvmLocator
