import EvmLocator.Inquiry
import EvmLocator.Proofs.Notice
import EvmLocator.Proofs.Session.StepLookup
import EvmLocator.Proofs.SourceMap.Settling

/-!
# Inquiries over malformed documents

An inquiry reports one located entry or one error, unless it uses a value of the wrong kind, of
which there is no report.  The kinds of values are checked wherever the catalog is read.  They are
not checked in three places.  The document of the compiler output is searched for two names before
its kind is known, and so is the compiler output in it.  A trace is gone through whatever it is.  A
step of it is asked for its program counter whatever it is, and a program counter serves as a key
whatever it is.

What a value is fit for depends on whether it has parts (`Json.HasParts`), and the three places are
three predicates on the documents.  Each stage is shown to fail in that way exactly on them, and to
end in a result or in a fault of the domain everywhere else.

There is no report either where a message or the notice of the located entry would show a number
that is too long to be written.  A lookup shows its step or its program counter if the step leads
nowhere, and an index that is out of the range of the source map (`Session.MeetsUnfit`).

## Main results

* `Catalog.ofDocument_of_unfit`, `Catalog.ofDocument_of_fit`: the document of the compiler output.
* `Session.start_of_unfit`, `Session.start_of_fit`: the document of the trace.
* `Session.answer_locate_eq_unfit_iff`: the lookup, between documents that are fit.
* `Inquiry.reports_once_or_breaks`: when an inquiry leaves no report, and what it reports otherwise.
-/

namespace EvmLocator

open Bytecode Instruction

/-! ## Values with parts -/

namespace Json

/-- Whether a value can be searched and gone through: it is a text, a list or an object. -/
inductive HasParts : Json → Prop where
  | text (s : String) : HasParts (.str s)
  | list (items : List Json) : HasParts (.arr items)
  | object (members : List (String × Json)) : HasParts (.obj members)

/-- Whether a value can be neither searched nor gone through. -/
inductive NoParts : Json → Prop where
  | null : NoParts .null
  | bool (b : Bool) : NoParts (.bool b)
  | int (n : Int) : NoParts (.int n)
  | real (x : Binary64) : NoParts (.real x)

theorem hasParts_or_noParts (v : Json) : v.HasParts ∨ v.NoParts := by
  cases v with
  | null => exact Or.inr .null
  | bool b => exact Or.inr (.bool b)
  | int n => exact Or.inr (.int n)
  | real x => exact Or.inr (.real x)
  | str s => exact Or.inl (.text s)
  | arr items => exact Or.inl (.list items)
  | obj members => exact Or.inl (.object members)

/-- Whether a value holds a name: as a piece of a text, an item of a list, or a member. -/
inductive Holds (name : String) : Json → Prop where
  | piece {s : String} {before after : List Char}
      (split : s.toList = before ++ (name.toList ++ after)) : Holds name (.str s)
  | item {items : List Json} (mem : .str name ∈ items) : Holds name (.arr items)
  | member {members : List (String × Json)} {v : Json}
      (present : Table.get? name members = some v) : Holds name (.obj members)

variable {v : Json} {name : String}

theorem Holds.hasParts (h : v.Holds name) : v.HasParts := by
  cases h with
  | piece => exact .text _
  | item => exact .list _
  | member => exact .object _

theorem same_str_iff : v.same (.str name) = true ↔ v = .str name := by
  cases v <;> simp [same, scalar?, Scalar.same, Scalar.integer?]

theorem has_of_noParts (h : v.NoParts) (name : String) : v.has name = .error .wrongKind := by
  cases h <;> rfl

theorem exists_has (h : v.HasParts) (name : String) : ∃ found, v.has name = .ok found := by
  cases h <;> exact ⟨_, rfl⟩

theorem has_eq_true_iff : v.has name = .ok true ↔ v.Holds name := by
  constructor
  · intro h
    rcases v.hasParts_or_noParts with hparts | hnone
    · cases hparts with
      | text s =>
          obtain ⟨before, after, hsplit⟩ := (Text.occurs_iff _ _).mp (Except.ok.inj h)
          exact .piece hsplit
      | list items =>
          obtain ⟨item, hmem, hsame⟩ := List.any_eq_true.mp (Except.ok.inj h)
          rw [same_str_iff] at hsame
          exact .item (hsame ▸ hmem)
      | object members =>
          obtain ⟨w, hw⟩ := Option.isSome_iff_exists.mp (Except.ok.inj h)
          exact .member hw
    · rw [has_of_noParts hnone] at h
      cases h
  · intro h
    cases h with
    | piece split => exact congrArg Except.ok ((Text.occurs_iff _ _).mpr ⟨_, _, split⟩)
    | item mem => exact congrArg Except.ok (List.any_eq_true.mpr ⟨_, mem, same_str_iff.mpr rfl⟩)
    | member present => exact congrArg Except.ok (Option.isSome_iff_exists.mpr ⟨_, present⟩)

theorem has_of_not_holds (hparts : v.HasParts) (h : ¬ v.Holds name) : v.has name = .ok false := by
  obtain ⟨found, hfound⟩ := exists_has hparts name
  cases found with
  | false => exact hfound
  | true => exact absurd (has_eq_true_iff.mp hfound) h

end Json

/-! ## The document of the compiler output -/

namespace Catalog

/-- Whether the document of a compiler output is of no use: nothing can be searched in it, or it
seems to wrap an output but has no members, or nothing can be searched in the output it wraps. -/
inductive UnfitDocument : Json → Prop where
  | noParts {document : Json} (none : document.NoParts) : UnfitDocument document
  | noMembers {document : Json} (wraps : document.Holds "output")
      (bare : ¬ document.Holds "contracts") (other : ∀ members, document ≠ .obj members) :
      UnfitDocument document
  | output {members : List (String × Json)} {v : Json}
      (wraps : Table.get? "output" members = some v)
      (bare : Table.get? "contracts" members = Option.none) (none : v.NoParts) :
      UnfitDocument (.obj members)

variable {document output : Json}

theorem ofDocument_of_not_found {u : Unfit} (h : outputIn document = .error u) :
    ofDocument document = .error (.unfit u) := by
  simp only [ofDocument, h, bind, Except.bind]

theorem ofDocument_of_noParts (h : outputIn document = .ok output) (hnone : output.NoParts) :
    ofDocument document = .error (.unfit .wrongKind) := by
  simp only [ofDocument, h, Json.has_of_noParts hnone, bind, Except.bind]

theorem ofDocument_of_hasParts (h : outputIn document = .ok output) (hparts : output.HasParts) :
    (∃ c, ofDocument document = .ok c) ∨ ∃ e, ofDocument document = .error (.catalog e) := by
  obtain ⟨whole, hwhole⟩ := Json.exists_has hparts "contracts"
  simp only [ofDocument, h, hwhole, bind, Except.bind, pure, Except.pure]
  cases if whole then ofOutput output else ofContracts output [] with
  | ok c => exact Or.inl ⟨c, rfl⟩
  | error e => exact Or.inr ⟨e, rfl⟩

theorem outputIn_of_not_holds (hparts : document.HasParts) (h : ¬ document.Holds "output") :
    outputIn document = .ok document := by
  rw [outputIn, Json.has_of_not_holds hparts h]
  rfl

theorem outputIn_of_bare (hwraps : document.Holds "output") (h : document.Holds "contracts") :
    outputIn document = .ok document := by
  rw [outputIn, Json.has_eq_true_iff.mpr hwraps, Json.has_eq_true_iff.mpr h]
  rfl

theorem outputIn_of_wraps (hwraps : document.Holds "output") (h : ¬ document.Holds "contracts") :
    outputIn document =
      match document.member? "output" with
      | some output => .ok output
      | none => .error .wrongKind := by
  rw [outputIn, Json.has_eq_true_iff.mpr hwraps, Json.has_of_not_holds hwraps.hasParts h]
  rfl

/-- An object gives the output that it wraps. -/
theorem outputIn_obj {members : List (String × Json)} {v : Json}
    (hwraps : Table.get? "output" members = some v) (h : ¬ (Json.obj members).Holds "contracts") :
    outputIn (.obj members) = .ok v := by
  rw [outputIn_of_wraps (.member hwraps) h, Json.member?, hwraps]

theorem ofDocument_of_unfit (h : UnfitDocument document) :
    ofDocument document = .error (.unfit .wrongKind) := by
  cases h with
  | noParts none =>
      apply ofDocument_of_not_found
      rw [outputIn, Json.has_of_noParts none]
      rfl
  | noMembers wraps bare other =>
      apply ofDocument_of_not_found
      rw [outputIn_of_wraps wraps bare]
      cases document with
      | obj members => exact absurd rfl (other members)
      | _ => rfl
  | output wraps bare none =>
      refine ofDocument_of_noParts (outputIn_obj wraps fun hholds => ?_) none
      cases hholds with
      | member present =>
          rw [bare] at present
          cases present

theorem ofDocument_of_fit (h : ¬ UnfitDocument document) :
    (∃ c, ofDocument document = .ok c) ∨ ∃ e, ofDocument document = .error (.catalog e) := by
  rcases document.hasParts_or_noParts with hparts | hnone
  · by_cases hwraps : document.Holds "output"
    · by_cases hbare : document.Holds "contracts"
      · exact ofDocument_of_hasParts (outputIn_of_bare hwraps hbare) hparts
      · -- What is wrapped is a member, and something can be searched in it.
        cases hwraps with
        | piece split =>
            exact absurd (.noMembers (.piece split) hbare fun members hobj => by cases hobj) h
        | item mem =>
            exact absurd (.noMembers (.item mem) hbare fun members hobj => by cases hobj) h
        | @member members v present =>
            rcases v.hasParts_or_noParts with houtput | hnone
            · exact ofDocument_of_hasParts (outputIn_obj present hbare) houtput
            · have habsent : Table.get? "contracts" members = none :=
                Option.eq_none_iff_forall_ne_some.mpr fun w hw => hbare (.member hw)
              exact absurd (.output present habsent hnone) h
    · exact ofDocument_of_hasParts (outputIn_of_not_holds hparts hwraps) hparts
  · exact absurd (.noParts hnone) h

end Catalog

/-! ## The document of the trace -/

namespace Trace

/-- Whether the document of a trace is of no use: it is given but cannot be gone through, or what it
gives as its steps cannot. -/
inductive UnfitDocument : Json → Prop where
  | noParts {trace : Json} (given : trace ≠ .null) (none : trace.NoParts) : UnfitDocument trace
  | steps {members : List (String × Json)} {v : Json}
      (present : Table.get? "structLogs" members = some v) (none : v.NoParts) :
      UnfitDocument (.obj members)

/-- The steps that the document of a trace gives; null gives none. -/
inductive Gives : Json → List Json → Prop where
  | nothing : Gives .null []
  | steps {trace : Json} {steps : List Json} (given : trace ≠ .null)
      (read : stepsOf trace = .ok steps) : Gives trace steps

theorem itemsOf_of_noParts {v : Json} (h : v.NoParts) : itemsOf v = .error .wrongKind := by
  cases h <;> rfl

theorem exists_itemsOf {v : Json} (h : v.HasParts) : ∃ items, itemsOf v = .ok items := by
  cases h <;> exact ⟨_, rfl⟩

theorem stepsOf_of_noParts {trace v : Json} (h : body trace = .ok v) (hnone : v.NoParts) :
    stepsOf trace = .error (.unfit .wrongKind) := by
  simp only [stepsOf, h, itemsOf_of_noParts hnone, bind, Except.bind]

theorem stepsOf_of_hasParts {trace v : Json} (h : body trace = .ok v) (hparts : v.HasParts) :
    ∃ steps, stepsOf trace = .ok steps := by
  obtain ⟨items, hitems⟩ := exists_itemsOf hparts
  exact ⟨items, by simp only [stepsOf, h, hitems, bind, Except.bind]⟩

theorem stepsOf_of_unfit {trace : Json} (h : UnfitDocument trace) :
    stepsOf trace = .error (.unfit .wrongKind) := by
  cases h with
  | noParts given none =>
      have hbody : body trace = .ok trace := by
        cases none <;> rfl
      exact stepsOf_of_noParts hbody none
  | @steps members v present none =>
      have hbody : body (.obj members) = .ok v := by
        rw [body, present]
      exact stepsOf_of_noParts hbody none

theorem stepsOf_of_fit {trace : Json} (hgiven : trace ≠ .null) (h : ¬ UnfitDocument trace) :
    (∃ steps, stepsOf trace = .ok steps) ∨ stepsOf trace = .error (.trace .noSteps) := by
  rcases trace.hasParts_or_noParts with hparts | hnone
  · cases hparts with
    | text s => exact Or.inl (stepsOf_of_hasParts rfl (.text s))
    | list items => exact Or.inl (stepsOf_of_hasParts rfl (.list items))
    | object members =>
        cases hsteps : Table.get? "structLogs" members with
        | none => exact Or.inr (by simp only [stepsOf, body, hsteps, bind, Except.bind])
        | some v =>
            have hbody : body (.obj members) = .ok v := by
              rw [body, hsteps]
            rcases v.hasParts_or_noParts with hparts | hnone
            · exact Or.inl (stepsOf_of_hasParts hbody hparts)
            · exact absurd (.steps hsteps hnone) h
  · exact absurd (.noParts hgiven hnone) h

end Trace

namespace Session

variable {provider : Provider} {debug : Bool} {trace : Json}

theorem start_of_error {f : Fault} (hgiven : trace ≠ .null) (h : Trace.stepsOf trace = .error f) :
    start provider trace debug = .error f := by
  unfold start
  split
  · exact absurd rfl hgiven
  · rw [loadTrace, h]

theorem start_of_unfit (h : Trace.UnfitDocument trace) :
    start provider trace debug = .error (.unfit .wrongKind) := by
  refine start_of_error (fun hnull => ?_) (Trace.stepsOf_of_unfit h)
  cases h with
  | noParts given => exact given hnull
  | steps => cases hnull

theorem start_of_gives {steps : List Json} (h : Trace.Gives trace steps) :
    start provider trace debug = .ok (prepared provider debug steps []) := by
  cases h with
  | nothing => rfl
  | steps given read => exact start_eq_prepared given read

theorem start_of_fit (h : ¬ Trace.UnfitDocument trace) :
    (∃ steps, Trace.Gives trace steps) ∨
      start provider trace debug = .error (.trace .noSteps) := by
  by_cases hgiven : trace = .null
  · subst hgiven
    exact Or.inl ⟨[], .nothing⟩
  · rcases Trace.stepsOf_of_fit hgiven h with ⟨steps, hsteps⟩ | hnone
    · exact Or.inl ⟨steps, .steps hgiven hsteps⟩
    · exact Or.inr (start_of_error hgiven hnone)

end Session

/-! ## The lookup -/

/-- The index at which a lookup reads a source map: the one it asks for, or the number of
instructions before the one at which its step stands. -/
inductive Reaches (target : Target) (steps : List Json) (is : List Instruction) :
    Integer → Prop where
  | index {index : Integer} (asked : target = .index index) : Reaches target steps is index
  | step {step : Integer} {pc : Scalar} {i : Instruction} (asked : target = .step step)
      (stands : StandsAt steps step pc) (mem : i ∈ is) (same : pc.same (.int i.pc) = true) :
      Reaches target steps is (.num (countBefore is i.pc))

/-- Texts as recorded codes. -/
def recordedTexts (codes : List (String × String)) : List (String × Json) :=
  codes.map fun entry => (entry.1, .str entry.2)

/-- What is served of texts is a text. -/
theorem exists_textOf_served {codes : List (String × String)} {address : String} {code : Json}
    (h : servedCode (recordedTexts codes) [] address = some code) :
    ∃ text, LoadedCode.textOf code = .ok text := by
  obtain ⟨entry, hfound, rfl⟩ := Option.map_eq_some_iff.mp h
  rw [List.findRev?_eq_find?_reverse] at hfound
  have hmem := List.mem_reverse.mp (List.mem_of_find?_eq_some hfound)
  obtain ⟨recorded, -, rfl⟩ := List.mem_map.mp hmem
  show ∃ text, LoadedCode.textOf (.str recorded.2) = .ok text
  rw [LoadedCode.textOf]
  split
  · exact ⟨_, rfl⟩
  · exact ⟨_, rfl⟩

theorem not_cannotLoad_unfit {codes : List (String × String)} {address : String} {u : Unfit} :
    ¬ CannotLoad (recordedTexts codes) [] address (.unfit u) := by
  intro h
  cases h with
  | notText served other =>
      obtain ⟨text, htext⟩ := exists_textOf_served served
      rw [htext] at other
      cases other

namespace Session

variable {codes : List (String × String)} {debug : Bool} {steps : List Json} {address : String}
  {catalog : Catalog} {u : Unfit}

/-- Why a lookup meets a value that is unfit, once its code is attributed to an artifact: its step is
no object, has no key for its program counter or shows a number that is too long, or the index that
is looked up is too long to be reported as out of range. -/
inductive MeetsUnfit (target : Target) (steps : List Json) (address : String)
    (bytes : List UInt8) (a : Artifact) : Unfit → Prop where
  | step {step : Integer} {u : Unfit} (asked : target = .step step)
      (nowhere : LeadsNowhere steps step (sweep 0 bytes) address (.unfit u)) :
      MeetsUnfit target steps address bytes a u
  | index {index : Integer} {map : String} (reaches : Reaches target steps (sweep 0 bytes) index)
      (present : a.sourceMap = some map)
      (beyond : index.value < 0 ∨ ((SourceMap.entries map.toList).length : Int) ≤ index.value)
      (long : 10 ^ Text.IntegerLiteral.digitLimit ≤ index.value.natAbs) :
      MeetsUnfit target steps address bytes a .numeralTooLong

theorem ofMap_eq_unfit_iff {e : SourceMap.Error} : Fault.ofMap e = .unfit u ↔ e = .unfit u := by
  cases e <;> simp [Fault.ofMap]

/-- A lookup by index reads the source map of the artifact, whatever the trace. -/
theorem answerFrom_index {index : Integer} {text : List Char} {bytes : List UInt8} :
    Lookup.answerFrom { address, target := .index index, catalog := .catalog catalog } steps
        (LoadedCode.ofBytes text bytes) = .error (.unfit u) ↔
      ∃ a, catalog.Attributes (Address.isCreation address) (normalize text) a ∧
        ∃ map, a.sourceMap = some map ∧
          SourceMap.atIndex index map.toList = .error (.unfit u) := by
  simp only [Lookup.answerFrom, CatalogSource.resolve, findMap, Lookup.locationIn,
    bytecode_ofBytes, ← Catalog.fst_search_eq_some_iff]
  cases (Catalog.search (normalize text)
    (catalog.candidates (Address.isCreation address))).1 with
  | none => simp
  | some a =>
      simp only [Option.map_some, MatchedMap.locationAt, Option.some.injEq, exists_eq_left']
      cases a.sourceMap with
      | none => simp
      | some map =>
          simp only [Option.some.injEq, exists_eq_left']
          cases SourceMap.atIndex index map.toList with
          | ok location => simp
          | error e => simp [ofMap_eq_unfit_iff]

theorem answer_locate_index_eq_unfit_iff {index : Integer} :
    ((prepared (Provider.ofMembers (recordedTexts codes)) debug steps []).locate
        { address, target := .index index, catalog := .catalog catalog }).answer =
          .error (.unfit u) ↔
      ∃ bytes a, Matched (recordedTexts codes) [] (.catalog catalog) address bytes a ∧
        MeetsUnfit (.index index) steps address bytes a u := by
  rw [answer_locate_prepared_eq]
  constructor
  · intro h
    split at h
    · next f hcode =>
        rw [Except.error.injEq] at h
        subst h
        exact absurd (((freshCode_iff _ _ _).2 _).mp hcode) not_cannotLoad_unfit
    · next code hcode =>
        obtain ⟨text, bytes, hloads, rfl⟩ := ((freshCode_iff _ _ _).1 _).mp hcode
        obtain ⟨a, hattributes, map, hmap, hrefused⟩ := answerFrom_index.mp h
        obtain ⟨hbeyond, hlong, rfl⟩ := SourceMap.atIndex_eq_unfit_iff.mp hrefused
        exact ⟨bytes, a, ⟨text, catalog, hloads, rfl, hattributes⟩,
          .index (.index rfl) hmap hbeyond hlong⟩
  · rintro ⟨bytes, a, ⟨text, found, hloads, hresolve, hattributes⟩, hmeets⟩
    cases hresolve
    rw [freshCode_of_loads hloads]
    cases hmeets with
    | step asked => cases asked
    | index reaches present beyond long =>
        have hrefused := SourceMap.atIndex_eq_unfit_iff.mpr ⟨beyond, long, rfl⟩
        cases reaches with
        | step asked => cases asked
        | index asked =>
            cases asked
            exact answerFrom_index.mpr ⟨a, hattributes, _, present, hrefused⟩

theorem answer_locate_step_eq_unfit_iff {step : Integer} :
    ((prepared (Provider.ofMembers (recordedTexts codes)) debug steps []).locate
        { address, target := .step step, catalog := .catalog catalog }).answer =
          .error (.unfit u) ↔
      ∃ bytes a, Matched (recordedTexts codes) [] (.catalog catalog) address bytes a ∧
        MeetsUnfit (.step step) steps address bytes a u := by
  rw [answer_locate_prepared, (firstAnswer_iff _ _ _ _ _ _).2]
  constructor
  · intro h
    generalize hf : Fault.unfit u = f at h
    cases h with
    | code cannot =>
        subst hf
        exact absurd cannot not_cannotLoad_unfit
    | catalog => cases hf
    | unmatched => cases hf
    | trace matched nowhere =>
        subst hf
        exact ⟨_, _, matched, .step rfl nowhere⟩
    | noMap => cases hf
    | sourceMap matched stands mem same present refused =>
        rw [eq_comm, ofMap_eq_unfit_iff] at hf
        subst hf
        obtain ⟨hbeyond, hlong, rfl⟩ := SourceMap.atIndex_eq_unfit_iff.mp refused
        exact ⟨_, _, matched, .index (.step rfl stands mem same) present hbeyond hlong⟩
  · rintro ⟨bytes, a, matched, hmeets⟩
    cases hmeets with
    | step asked nowhere =>
        cases asked
        exact .trace matched nowhere
    | index reaches present beyond long =>
        have hrefused := SourceMap.atIndex_eq_unfit_iff.mpr ⟨beyond, long, rfl⟩
        cases reaches with
        | index asked => cases asked
        | step asked stands mem same =>
            cases asked
            exact .sourceMap matched stands mem same present hrefused

/-- **The lookup.**  With texts as codes, a lookup meets a value that is unfit only after its code is
attributed to an artifact. -/
theorem answer_locate_eq_unfit_iff {target : Target} :
    ((prepared (Provider.ofMembers (recordedTexts codes)) debug steps []).locate
        { address, target, catalog := .catalog catalog }).answer = .error (.unfit u) ↔
      ∃ bytes a, Matched (recordedTexts codes) [] (.catalog catalog) address bytes a ∧
        MeetsUnfit target steps address bytes a u := by
  cases target with
  | index index => exact answer_locate_index_eq_unfit_iff
  | step step => exact answer_locate_step_eq_unfit_iff

end Session

/-! ## The inquiry -/

namespace Inquiry

/-- The lookup of an inquiry in a catalog. -/
def lookup (q : Inquiry) (catalog : Catalog) : Lookup :=
  { address := q.address, target := q.target, catalog := .catalog catalog }

/-- The lookup of an inquiry, on a session that has kept nothing. -/
def look (q : Inquiry) (catalog : Catalog) (codes : List (String × String)) (steps : List Json) :
    Step Location :=
  (Session.prepared (Provider.ofMembers (recordedTexts codes)) q.debug steps []).locate
    (q.lookup catalog)

section

variable (q : Inquiry) (source? : String → Option Source) (catalog : Catalog) (session : Session)
  (location : Location)

/-- What the report of a location knows before it has an entry. -/
def known : Report :=
  q.background catalog session location
    ((catalog.compiledName? location.fileKey).bind source?)

/-- The entry of a location. -/
def entryOf : ReportEntry :=
  q.entryIn (q.known source? catalog session location) location

/-- The report of a location. -/
def reportOf : Report :=
  (q.known source? catalog session location).addEntry
    (q.entryOf source? catalog session location)

end

/-- Why an inquiry leaves no report: the document of the compiler output is of no use, or that of
the trace is, or the lookup meets a value that is unfit, or the notice of the entry that is found
would show a number that is too long. -/
inductive Breaks (q : Inquiry) (artifacts : Json) (codes : List (String × String)) (trace : Json)
    (source? : String → Option Source) : Unfit → Prop where
  | artifacts (unfit : Catalog.UnfitDocument artifacts) :
      Breaks q artifacts codes trace source? .wrongKind
  | trace {catalog : Catalog} (read : Catalog.ofDocument artifacts = .ok catalog)
      (unfit : Trace.UnfitDocument trace) : Breaks q artifacts codes trace source? .wrongKind
  | lookup {catalog : Catalog} {steps : List Json} {bytes : List UInt8} {a : Artifact} {u : Unfit}
      (read : Catalog.ofDocument artifacts = .ok catalog) (gives : Trace.Gives trace steps)
      (matched : Matched (recordedTexts codes) [] (.catalog catalog) q.address bytes a)
      (meets : Session.MeetsUnfit q.target steps q.address bytes a u) :
      Breaks q artifacts codes trace source? u
  | notice {catalog : Catalog} {steps : List Json} {location : Location} {n : Int}
      (read : Catalog.ofDocument artifacts = .ok catalog) (gives : Trace.Gives trace steps)
      (located : (q.look catalog codes steps).answer = .ok location)
      (shown : n ∈ (q.entryOf source? catalog (q.look catalog codes steps).session
        location).integers)
      (long : 10 ^ Text.IntegerLiteral.digitLimit ≤ n.natAbs) :
      Breaks q artifacts codes trace source? .numeralTooLong

/-- Whether a report holds one answer for an address: a located entry or an error. -/
inductive ReportsOnce (address : String) (r : Report) : Prop where
  | located (entry : ReportEntry) (about : entry.address = address) (entries : r.entries = [entry])
      (errors : r.errors = [])
  | failed (f : Fault) (domain : ∀ u, f ≠ .unfit u) (entries : r.entries = [])
      (errors : r.errors = [address ++ ": " ++ f.message])

section

variable {q : Inquiry} {supply : Supply Id} {catalog : Catalog} {session : Session}

/-! ### The stages of an inquiry -/

/-- Steps that only go on change no result. -/
theorem forIn_yield {α : Type} {step : α → ExceptT Fault Id (ForInStep PUnit)}
    (h : ∀ x, step x = pure (.yield PUnit.unit)) (xs : List α) :
    (forIn xs PUnit.unit fun x _ => step x) = (pure PUnit.unit : ExceptT Fault Id PUnit) := by
  induction xs with
  | nil => rfl
  | cons x xs ih =>
      rw [List.forIn_cons, h, pure_bind]
      exact ih

theorem run_locate_of_error {f : Fault} (h : Id.run (q.load supply).run = .error f) :
    Id.run (q.locate supply).run = .error f := by
  simp only [locate, ExceptT.run_bind, Id.run_bind, h, Id.run_pure]

theorem run_locate_of_ok (h : Id.run (q.load supply).run = .ok (catalog, session)) :
    Id.run (q.locate supply).run =
      match (session.locate (q.lookup catalog)).answer with
      | .ok location => .ok (catalog, (session.locate (q.lookup catalog)).session, location)
      | .error f => .error f := by
  simp only [locate, lookup, ExceptT.run_bind, Id.run_bind, h]
  rw [forIn_yield]
  · cases (session.locate _).answer <;> rfl
  · exact fun _ => rfl

/-! ### The report of an inquiry -/

/-- A report has no answer before its entry, whether the file is at hand or not. -/
theorem answers_background (q : Inquiry) (catalog : Catalog) (session : Session)
    (location : Location) (source : Option Source) :
    (q.background catalog session location source).entries = [] ∧
      (q.background catalog session location source).errors = [] := by
  unfold background
  cases session.generatedSources q.address <;> cases source <;> exact ⟨rfl, rfl⟩

/-- A location is reported by one entry. -/
theorem reportsOnce_reportOf (q : Inquiry) (source? : String → Option Source) (catalog : Catalog)
    (session : Session) (location : Location) :
    ReportsOnce q.address (q.reportOf source? catalog session location) := by
  obtain ⟨hentries, herrors⟩ := q.answers_background catalog session location
    ((catalog.compiledName? location.fileKey).bind source?)
  refine .located (q.entryOf source? catalog session location) rfl ?_ herrors
  rw [reportOf, Report.addEntry, known, hentries]
  rfl

theorem run_conclude (report : Report) (entry : ReportEntry) :
    Id.run (conclude supply report entry) = entry.text.map fun _ => report.addEntry entry := by
  rw [conclude]
  cases entry.text <;> rfl

/-- A location is described by its report, if its entry can be shown. -/
theorem run_describe (location : Location) :
    Id.run (q.describe supply catalog session location) =
      (q.entryOf supply.source? catalog session location).text.map fun _ =>
        q.reportOf supply.source? catalog session location := by
  rw [describe, reportOf, entryOf, known]
  cases catalog.compiledName? location.fileKey with
  | none => exact run_conclude _ _
  | some name => exact run_conclude _ _

theorem answer_of_located {location : Location}
    (h : Id.run (q.locate supply).run = .ok (catalog, session, location)) :
    Id.run (q.answer supply) =
      (q.entryOf supply.source? catalog session location).text.map fun _ =>
        q.reportOf supply.source? catalog session location := by
  rw [answer]
  simp only [Id.run_bind, h]
  exact run_describe location

theorem answer_of_unfit {u : Unfit} (h : Id.run (q.locate supply).run = .error (.unfit u)) :
    Id.run (q.answer supply) = .error u := by
  rw [answer]
  simp only [Id.run_bind, h]
  rfl

theorem answer_of_domain {f : Fault} (hdomain : ∀ u, f ≠ .unfit u)
    (h : Id.run (q.locate supply).run = .error f) :
    ∃ r, Id.run (q.answer supply) = .ok r ∧ ReportsOnce q.address r := by
  have hreport : Id.run (q.answer supply) = .ok (Report.addError {} q.address f.message) := by
    rw [answer]
    simp only [Id.run_bind, h]
    cases f with
    | unfit u => exact absurd rfl (hdomain u)
    | _ => rfl
  exact ⟨_, hreport, .failed f hdomain rfl rfl⟩

end

/-! ### Documents at hand -/

section

variable {q : Inquiry} {artifacts trace : Json} {codes : List (String × String)}
  {source? : String → Option Source} {catalog : Catalog}

/-- The supply of documents of which the one with the codes is fit. -/
abbrev textSupply (artifacts : Json) (codes : List (String × String)) (trace : Json)
    (source? : String → Option Source) : Supply Id :=
  Supply.ofDocuments artifacts (Provider.ofJson (.obj (recordedTexts codes))) trace source?

theorem run_load :
    Id.run (q.load (textSupply artifacts codes trace source?)).run =
      (do
        let catalog ← Catalog.ofDocument artifacts
        let session ← Session.start (Provider.ofMembers (recordedTexts codes)) trace q.debug
        pure (catalog, session) : Except Fault (Catalog × Session)) := by
  show (ExceptT.bind (ExceptT.mk (Catalog.ofDocument artifacts)) fun catalog =>
    ExceptT.bind (ExceptT.mk (Session.start _ trace q.debug)) fun session =>
      pure (catalog, session) : ExceptT Fault Id (Catalog × Session)) = _
  cases Catalog.ofDocument artifacts with
  | error f => rfl
  | ok catalog => cases Session.start _ trace q.debug <;> rfl

theorem run_load_of_error {f : Fault} (h : Catalog.ofDocument artifacts = .error f) :
    Id.run (q.load (textSupply artifacts codes trace source?)).run = .error f := by
  rw [run_load, h]
  rfl

theorem run_load_of_start {f : Fault} (hread : Catalog.ofDocument artifacts = .ok catalog)
    (h : Session.start (Provider.ofMembers (recordedTexts codes)) trace q.debug = .error f) :
    Id.run (q.load (textSupply artifacts codes trace source?)).run = .error f := by
  rw [run_load, hread, h]
  rfl

theorem run_load_of_gives {steps : List Json} (hread : Catalog.ofDocument artifacts = .ok catalog)
    (h : Trace.Gives trace steps) :
    Id.run (q.load (textSupply artifacts codes trace source?)).run =
      .ok (catalog,
        Session.prepared (Provider.ofMembers (recordedTexts codes)) q.debug steps []) := by
  rw [run_load, hread, Session.start_of_gives h]
  rfl

/-- Where the documents are fit, the lookup decides. -/
theorem run_locate_of_gives {steps : List Json} (hread : Catalog.ofDocument artifacts = .ok catalog)
    (h : Trace.Gives trace steps) :
    Id.run (q.locate (textSupply artifacts codes trace source?)).run =
      match (q.look catalog codes steps).answer with
      | .ok location => .ok (catalog, (q.look catalog codes steps).session, location)
      | .error f => .error f :=
  run_locate_of_ok (run_load_of_gives hread h)

theorem answer_look_eq_unfit_iff {steps : List Json} {u : Unfit} :
    (q.look catalog codes steps).answer = .error (.unfit u) ↔
      ∃ bytes a, Matched (recordedTexts codes) [] (.catalog catalog) q.address bytes a ∧
        Session.MeetsUnfit q.target steps q.address bytes a u :=
  Session.answer_locate_eq_unfit_iff

theorem answer_of_breaks {u : Unfit} (h : q.Breaks artifacts codes trace source? u) :
    Id.run (q.answer (textSupply artifacts codes trace source?)) = .error u := by
  cases h with
  | artifacts unfit =>
      exact answer_of_unfit
        (run_locate_of_error (run_load_of_error (Catalog.ofDocument_of_unfit unfit)))
  | trace read unfit =>
      exact answer_of_unfit
        (run_locate_of_error (run_load_of_start read (Session.start_of_unfit unfit)))
  | lookup read gives matched meets =>
      apply answer_of_unfit
      rw [run_locate_of_gives read gives, answer_look_eq_unfit_iff.mpr ⟨_, _, matched, meets⟩]
  | notice read gives located shown long =>
      have hlocate : Id.run (q.locate (textSupply artifacts codes trace source?)).run = _ :=
        run_locate_of_gives read gives
      rw [located] at hlocate
      rw [answer_of_located hlocate]
      have hrefused := (ReportEntry.writtenIff_text _).refused fun hfits =>
        Text.IntegerLiteral.not_fits_iff.mpr long (hfits _ shown)
      exact congrArg (Except.map _) hrefused

theorem reports_of_not_breaks (h : ∀ u, ¬ q.Breaks artifacts codes trace source? u) :
    ∃ r, Id.run (q.answer (textSupply artifacts codes trace source?)) = .ok r ∧
      ReportsOnce q.address r := by
  rcases Catalog.ofDocument_of_fit fun hunfit => h _ (.artifacts hunfit) with
    ⟨catalog, hread⟩ | ⟨e, herror⟩
  · rcases Session.start_of_fit fun hunfit => h _ (.trace hread hunfit) with
      ⟨steps, hgives⟩ | hstart
    · have hlocate : Id.run (q.locate (textSupply artifacts codes trace source?)).run = _ :=
        run_locate_of_gives hread hgives
      cases hanswer : (q.look catalog codes steps).answer with
      | ok location =>
          rw [hanswer] at hlocate
          obtain ⟨text, htext⟩ := (ReportEntry.writtenIff_text _).written fun n hn =>
            Text.IntegerLiteral.fits_iff.mpr
              (Nat.lt_of_not_le fun hlong => h _ (.notice hread hgives hanswer hn hlong))
          refine ⟨_, ?_, reportsOnce_reportOf q source? catalog
            (q.look catalog codes steps).session location⟩
          rw [answer_of_located hlocate]
          exact congrArg (Except.map _) htext
      | error f =>
          rw [hanswer] at hlocate
          refine answer_of_domain (fun u hu => ?_) hlocate
          rw [hu] at hanswer
          obtain ⟨bytes, a, hmatched, hmeets⟩ := answer_look_eq_unfit_iff.mp hanswer
          exact h u (.lookup hread hgives hmatched hmeets)
    · exact answer_of_domain (fun u hu => by cases hu)
        (run_locate_of_error (run_load_of_start hread hstart))
  · exact answer_of_domain (fun u hu => by cases hu)
      (run_locate_of_error (run_load_of_error herror))

end

/-- **What becomes of malformed documents.**  The documents are at hand, as reading gives them: a
file that is no document, or holds a numeral too long to be read, fails before.  From there an
inquiry leaves no report exactly if a document is of no use where its kind is not checked, or if it
comes to show a number that is too long to be written; else it reports one located entry and no
error, or one error and no entry. -/
theorem reports_once_or_breaks (q : Inquiry) (artifacts trace : Json)
    (codes : List (String × String)) (source? : String → Option Source) :
    (∀ u, Id.run (q.answer (textSupply artifacts codes trace source?)) = .error u ↔
      q.Breaks artifacts codes trace source? u) ∧
    ((∃ r, Id.run (q.answer (textSupply artifacts codes trace source?)) = .ok r ∧
      ReportsOnce q.address r) ↔ ∀ u, ¬ q.Breaks artifacts codes trace source? u) := by
  by_cases hbreaks : ∃ u, q.Breaks artifacts codes trace source? u
  · obtain ⟨u, hu⟩ := hbreaks
    have hanswer : Id.run (q.answer (textSupply artifacts codes trace source?)) = .error u :=
      answer_of_breaks hu
    refine ⟨fun u' => ⟨fun h => ?_, answer_of_breaks⟩, fun ⟨r, hr, _⟩ => ?_,
      fun h => absurd hu (h u)⟩
    · rw [hanswer, Except.error.injEq] at h
      exact h ▸ hu
    · rw [hanswer] at hr
      cases hr
  · have hnot := not_exists.mp hbreaks
    obtain ⟨r, hr, honce⟩ : ∃ r, Id.run (q.answer (textSupply artifacts codes trace source?)) =
      .ok r ∧ ReportsOnce q.address r := reports_of_not_breaks hnot
    refine ⟨fun u => ⟨fun h => ?_, fun hu => absurd hu (hnot u)⟩, fun _ => hnot,
      fun _ => ⟨r, hr, honce⟩⟩
    rw [hr] at h
    cases h

/-- A number as the document of the compiler output, a number as the trace, and a number as a step
of the trace each leave no report. -/
theorem numbers_leave_no_report :
    let q : Inquiry := { address := "0xabc", target := .step (.num 0), debug := false }
    let code := Json.obj [("object", .str "6001"), ("sourceMap", .str "0:1:0:-:0")]
    let contracts := Json.obj
      [("A.sol", .obj [("A", .obj [("evm", .obj [("deployedBytecode", code)])])])]
    Id.run (q.answer (textSupply (.int 5) [] .null fun _ => none)) = .error .wrongKind ∧
      Id.run (q.answer (textSupply (.obj []) [] (.int 5) fun _ => none)) = .error .wrongKind ∧
      Id.run (q.answer
        (textSupply contracts [("0xabc", "0x6001")] (.arr [.int 1]) fun _ => none)) =
          .error .lacksOperation :=
  ⟨rfl, rfl, rfl⟩

end Inquiry

end EvmLocator
