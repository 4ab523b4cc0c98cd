import EvmLocator.Proofs.Session.Faithful
import EvmLocator.Proofs.Session.Stages
import EvmLocator.Proofs.Session.Uncached

/-!
# What a failure leaves alone

An operation that fails leaves its mark on the session only as far as it came, and this is the
account of how far each fault lets it come.  A code that cannot be had stops a lookup before it has
written anything.  A catalog that cannot be read, or in which no contract matches, stops it after
the code was written and before any source map was.  Only a fault of the trace or of the source map
itself comes later than that, and by then the lookup has written one source map, under a key that
had none.

Lookups side by side may write over each other's source maps, but never over one that was kept when
they began: a lookup that finds one does not get as far as writing.

## Main results

* `spares_complete`: what a lookup that fails has written by then, fault by fault.
* `keepsMaps_gather`: lookups side by side write over no source map that was kept when they began.
* `intact_of_error`: what an operation that fails leaves alone.
-/

namespace EvmLocator

/-- Whether a fault can be met once the source map of a lookup is known. -/
def Fault.isLate : Fault → Bool
  | sourceMap _ => true
  | trace _ => true
  | unfit _ => true
  | _ => false

theorem Fault.OfStep.isLate {f : Fault} (h : f.OfStep) : f.isLate = true := by
  cases h <;> rfl

theorem Fault.isLate_ofMap (e : SourceMap.Error) : (ofMap e).isLate = true := by
  cases e <;> rfl

theorem MatchedMap.isLate_locationAt (m : MatchedMap) {index : Integer} {f : Fault}
    (h : m.locationAt index = .error f) : f.isLate = true := by
  unfold locationAt at h
  split at h
  · cases h
    rfl
  · split at h
    · cases h
    · cases h
      exact Fault.isLate_ofMap _

theorem Step.answer_map_eq_error_iff {α β : Type} {g : α → β} {step : Step α} {f : Fault} :
    (step.map g).answer = .error f ↔ step.answer = .error f := by
  unfold Step.map
  cases step.answer <;> simp

namespace Session

open Step

variable {s s' s'' : Session} {q : Lookup} {address : String} {f : Fault}

theorem isLate_instructionIndex {step : Integer}
    (h : s.instructionIndex address step = .error f) : f.isLate = true := by
  cases hcode : s.codes.get? (Address.key address) with
  | none =>
      rw [instructionIndex, hcode] at h
      cases h
      rfl
  | some code =>
      rw [instructionIndex_eq_indexOfStep hcode] at h
      exact (ofStep_of_indexOfStep h).isLate

/-- A lookup whose source map is known fails by the trace or by the source map. -/
theorem isLate_answer {m : MatchedMap} (h : s.answer q m = .error f) : f.isLate = true := by
  cases htarget : q.target with
  | index index =>
      rw [answer_of_index htarget] at h
      exact m.isLate_locationAt h
  | step step =>
      rw [answer_of_step htarget] at h
      cases hindex : s.instructionIndex q.address step with
      | error g =>
          rw [hindex] at h
          cases h
          exact isLate_instructionIndex hindex
      | ok index =>
          rw [hindex] at h
          exact m.isLate_locationAt h

/-! ## How far a fault lets a lookup come -/

/-- What a lookup of an address that has failed leaves alone, by its fault. -/
structure Spares (address : String) (f : Fault) (s s' : Session) : Prop where
  confined : Confined [address] s s'
  fetch : ∀ other reason, f = .fetch other reason → s' = s
  noSourceMap : ∀ other, f = .noSourceMap other → s'.maps = s.maps
  catalog : ∀ e, f = .catalog e → s'.maps = s.maps

/-- A lookup that ends before it keeps a source map has written the code at most. -/
theorem Spares.of_maps {got : Session} (hconfined : Confined [address] s got)
    (hmaps : got.maps = s.maps) (hfetch : ∀ other reason, f ≠ .fetch other reason) :
    Spares address f s got where
  confined := hconfined
  fetch := fun other reason hf => absurd hf (hfetch other reason)
  noSourceMap := fun _ _ => hmaps
  catalog := fun _ _ => hmaps

theorem Spares.of_isLate (hconfined : Confined [address] s s') (hlate : f.isLate = true) :
    Spares address f s s' := by
  refine { confined := hconfined, fetch := ?_, noSourceMap := ?_, catalog := ?_ }
  · rintro other reason rfl
    cases hlate
  · rintro other rfl
    cases hlate
  · rintro e rfl
    cases hlate

theorem Spares.of_eq (address : String) (f : Fault) (s : Session) : Spares address f s s where
  confined := .refl _ s
  fetch := fun _ _ _ => rfl
  noSourceMap := fun _ _ => rfl
  catalog := fun _ _ => rfl

/-- What a lookup that fails has written by then: getting the code has written nothing but the code,
and nothing at all if that is what failed. -/
theorem spares_complete {got : Session} {outcome : Except Fault LoadedCode}
    (hconfined : Confined [q.address] s got) (hmaps : got.maps = s.maps)
    (hfails : ∀ g, outcome = .error g → got = s)
    (h : (got.complete q outcome).answer = .error f) :
    Spares q.address f s (got.complete q outcome).session := by
  have hwhole := hconfined.trans (confined_complete got q outcome)
  have hend := completion got q outcome
  generalize got.complete q outcome = step at hend hwhole h ⊢
  cases hend with
  | noCode g =>
      rw [hfails g rfl]
      exact .of_eq _ _ s
  | noCatalog fails =>
      cases h
      exact .of_maps hwhole hmaps nofun
  | unmatched resolves found =>
      cases h
      exact .of_maps hwhole hmaps nofun
  | attributed resolves found writes => exact .of_isLate hwhole (isLate_answer h)

theorem spares_locate (h : (s.locate q).answer = .error f) :
    Spares q.address f s (s.locate q).session := by
  cases hmap : s.maps.get? (Address.key q.address) with
  | some m =>
      rw [locate_of_map hmap]
      exact .of_eq _ _ s
  | none =>
      rw [locate_of_no_map hmap] at h ⊢
      exact spares_complete (confined_getCode s q.address) (maps_getCode s q.address)
        (fun g hg => session_getCode_of_error hg) h

theorem spares_resume (h : (s.resume q).answer = .error f) :
    Spares q.address f s (s.resume q).session :=
  spares_complete (confined_fetch s q.address) (maps_fetch s q.address)
    (fun _ hg => snd_fetch_of_error hg) h

/-! ## Source maps that are kept -/

/-- Whether the source maps of a session are all kept on. -/
def KeepsMaps (s s' : Session) : Prop :=
  ∀ key m, s.maps.get? key = some m → s'.maps.get? key = some m

/-- What is confined to an address under which no source map is kept keeps all source maps. -/
theorem KeepsMaps.confined (h : KeepsMaps s s')
    (hnone : s.maps.get? (Address.key address) = none) (hconfined : Confined [address] s' s'') :
    KeepsMaps s s'' := by
  intro key m hm
  have hkey : key ∉ [address].map Address.key := by
    intro hkey
    rw [List.mem_singleton.mp hkey, hnone] at hm
    cases hm
  rw [hconfined.maps key hkey]
  exact h key m hm

theorem keepsMaps_locate (s : Session) (q : Lookup) : KeepsMaps s (s.locate q).session := by
  cases hmap : s.maps.get? (Address.key q.address) with
  | some m =>
      rw [locate_of_map hmap]
      exact fun key m hm => hm
  | none =>
      have hrefl : KeepsMaps s s := fun key m hm => hm
      exact hrefl.confined hmap (confined_locate s q)

/-- Lookups side by side write under the keys of their addresses, and over no source map that was
kept when they began. -/
theorem keepsMaps_gather (s : Session) (order : List Nat) (lookups : List Lookup) :
    Confined (lookups.map Lookup.address) s (s.gather order lookups).session ∧
      KeepsMaps s (s.gather order lookups).session := by
  -- What waits has found no source map, so there was none when the lookups began.
  have rules : Gathering.Rules (fun q => q ∈ lookups)
      (fun s' => Confined (lookups.map Lookup.address) s s' ∧ KeepsMaps s s')
      (fun q => q ∈ lookups ∧ s.maps.get? (Address.key q.address) = none) (fun _ _ => True) :=
    { finishes := by
        intro s' q step hq hs hbegin
        rw [← locate_of_begin hbegin]
        have hown := (confined_locate s' q).of_mem (List.mem_map_of_mem hq)
        refine ⟨trivial, hs.1.trans hown, ?_⟩
        exact fun key m hm => keepsMaps_locate s' q key m (hs.2 key m hm)
      waits := by
        intro s' q hq hs hbegin
        have hnone := (begin_eq_waiting_iff.mp hbegin).1
        refine ⟨hq, ?_⟩
        cases hmap : s.maps.get? (Address.key q.address) with
        | none => rfl
        | some m =>
            rw [hs.2 _ m hmap] at hnone
            cases hnone
      resumes := by
        intro s' q hs hwaits
        obtain ⟨hq, hnone⟩ := hwaits
        have hresume := confined_resume s' q
        exact ⟨trivial, hs.1.trans (hresume.of_mem (List.mem_map_of_mem hq)),
          hs.2.confined hnone hresume⟩ }
  obtain ⟨answers, -, -, hlast⟩ :=
    gather_induction rules order (fun q hq => hq) ⟨.refl _ s, fun key m hm => hm⟩
  exact hlast

/-! ## What an operation that fails leaves alone -/

theorem session_identifyJson_of_error {code : Json} {source : CatalogSource}
    (h : (s.identifyJson address code source).answer = .error f) :
    (s.identifyJson address code source).session = s := by
  unfold identifyJson at h ⊢
  cases hresolve : source.resolve with
  | error e => rfl
  | ok catalog =>
      simp only [hresolve] at h ⊢
      cases hobserved : observedText address code catalog with
      | error u => rfl
      | ok observed =>
          simp only [hobserved, Session.identify, CatalogSource.resolve] at h ⊢
          cases hfound : findMap address observed catalog with
          | mk found events =>
              cases found with
              | none => rfl
              | some m =>
                  rw [hfound] at h
                  cases h

/-- An operation that looks nothing up changes nothing if it fails. -/
theorem session_apply_of_error {op : Operation} (hlookups : op.lookups = [])
    (h : (s.apply op).answer = .error f) : (s.apply op).session = s := by
  cases op with
  | getCode address =>
      exact session_getCode_of_error (answer_map_eq_error_iff.mp h)
  | loadTrace trace =>
      simp only [apply] at h ⊢
      cases hload : s.loadTrace trace with
      | error g => rfl
      | ok after =>
          rw [hload] at h
          cases h
  | identify address code source =>
      exact session_identifyJson_of_error (answer_map_eq_error_iff.mp h)
  | findMap address code source => exact session_findMapJson s address code source
  | locate q => cases hlookups
  | counter step => rfl
  | instructionIndex address step => rfl
  | generatedSources address => rfl
  | _ => cases h

/-- **What an operation that fails leaves alone.**  An operation that looks nothing up changes
nothing.  A lookup writes under the key of its own address only, and over no source map that was
kept; it changes nothing if the code of its address cannot be had, and no source map if there is no
catalog or no contract that matches.  The last two parts say the same of lookups side by side, of
one that resumes after others have written and of all of them together. -/
theorem intact_of_error (s : Session) :
    (∀ op f, op.lookups = [] → (s.apply op).answer = .error f → (s.apply op).session = s) ∧
      (∀ q f, (s.apply (.locate q)).answer = .error f →
        Spares q.address f s (s.apply (.locate q)).session ∧
          KeepsMaps s (s.apply (.locate q)).session) ∧
      (∀ q f, (s.resume q).answer = .error f → Spares q.address f s (s.resume q).session) ∧
      ∀ order lookups,
        Confined (lookups.map Lookup.address) s (s.apply (.gather order lookups)).session ∧
          KeepsMaps s (s.apply (.gather order lookups)).session := by
  refine ⟨fun op f => session_apply_of_error, ?_, fun q f => spares_resume, ?_⟩
  · intro q f h
    exact ⟨spares_locate (answer_map_eq_error_iff.mp h), keepsMaps_locate s q⟩
  · intro order lookups
    exact keepsMaps_gather s order lookups

namespace Sample

/-- A session that has looked the addition up. -/
def looked : Session :=
  { Session.fresh (Provider.ofMembers codes) false with trace := steps }.run [.locate lookup]

/-- A lookup of an address without a code. -/
def elsewhere : Lookup :=
  { lookup with address := "0xdef" }

/-- A lookup of a step that the trace does not have. -/
def beyond : Lookup :=
  { lookup with address := "0xABC", target := .step (.num 9) }

end Sample

theorem intact_of_error_sample :
    (Sample.looked.apply (.loadTrace (.obj []))).session = Sample.looked ∧
      (Sample.looked.apply (.locate Sample.elsewhere)).session = Sample.looked ∧
      (Sample.looked.locate Sample.beyond).answer = .error (.trace (.outOfRange "9" 3)) ∧
      KeepsMaps Sample.looked (Sample.looked.apply (.locate Sample.beyond)).session := by
  have helsewhere : (Sample.looked.locate Sample.elsewhere).answer =
      .error (.fetch "0xdef" (.refused (.unrecorded "0xdef"))) := by decide +kernel
  have hbeyond : (Sample.looked.locate Sample.beyond).answer =
      .error (.trace (.outOfRange "9" 3)) := by decide +kernel
  obtain ⟨hplain, hlookup, -⟩ := intact_of_error Sample.looked
  refine ⟨hplain (.loadTrace (.obj [])) (.trace .noSteps) rfl rfl, ?_, hbeyond, ?_⟩
  · exact (hlookup Sample.elsewhere _ (answer_map_eq_error_iff.mpr helsewhere)).1.fetch _ _ rfl
  · exact (hlookup Sample.beyond _ (answer_map_eq_error_iff.mpr hbeyond)).2

end Session

end EvmLocator
