import EvmLocator.Notice
import EvmLocator.Session.Lookup

/-!
# Inquiries

An inquiry is one lookup from documents to report.  It takes the compiler output, the codes and
the trace from a supply, one after another, looks the location up, and reports it with the source
file that it names.

A supply gives its documents in a monad of its own, so the same inquiry runs on files and on
values that are at hand (`Supply.ofDocuments`).

A fault that belongs to the domain is the content of the report: it ends the lookup and is reported
as an error.  A value that is unfit for its use leaves no report, and so does a number that is too
long for the notice of the answer.
-/

namespace EvmLocator

/-! ## Documents -/

/-- Whether a name is in a value: a member of an object, an item of a list, a piece of a text. -/
def Json.has (name : String) : Json → Except Unfit Bool
  | .obj members => .ok (Table.get? name members).isSome
  | .arr items => .ok (items.any fun v => v.same (.str name))
  | .str s => .ok (Text.occurs name.toList s.toList)
  | _ => .error .wrongKind

/-- The compiler output in a document, which may hold it as its member `output`. -/
def Catalog.outputIn (document : Json) : Except Unfit Json := do
  let wrapped ← document.has "output"
  if !wrapped then pure document
  else
    let bare ← document.has "contracts"
    if bare then pure document
    else match document.member? "output" with
      | some output => pure output
      | none => .error .wrongKind

/-- The catalog of a document: a compiler output if it has contracts, else the contracts
themselves. -/
def Catalog.ofDocument (document : Json) : Except Fault Catalog := do
  let read : Except Unfit (Json × Bool) := do
    let output ← outputIn document
    let whole ← output.has "contracts"
    pure (output, whole)
  match read with
  | .error u => .error (.unfit u)
  | .ok (output, whole) =>
    match if whole then ofOutput output else ofContracts output [] with
    | .ok c => .ok c
    | .error e => .error (.catalog e)

/-! ## Inquiries -/

/-- One lookup, and whether its report shows generated sources. -/
structure Inquiry where
  address : String
  target : Target
  debug : Bool

/-- What an inquiry draws on. -/
structure Supply (m : Type → Type) where
  /-- The name of the document with the compiler output. -/
  artifactsName : String
  /-- The document with the compiler output. -/
  artifacts : m Json
  /-- The provider of codes, if the codes are fit for one. -/
  provider : m (Except Unfit Provider)
  /-- The trace, null if there is none. -/
  trace : m Json
  /-- The source file with a name. -/
  source? : String → m (Option Source)
  /-- Takes a notice. -/
  note : Notice → m Unit

/-- The supply of documents that are at hand. -/
def Supply.ofDocuments (artifacts : Json) (provider : Except Unfit Provider) (trace : Json)
    (source? : String → Option Source) : Supply Id :=
  { artifactsName := "", artifacts, provider, trace, source?, note := fun _ => () }

namespace Inquiry

/-- The catalog and the session of an inquiry. -/
def load {m : Type → Type} [Monad m] (q : Inquiry) (supply : Supply m) :
    ExceptT Fault m (Catalog × Session) := do
  let document ← supply.artifacts
  let catalog ← ExceptT.mk (pure (Catalog.ofDocument document))
  supply.note (.loaded catalog.size supply.artifactsName)
  let provider ← supply.provider
  let provider ← ExceptT.mk (pure (provider.mapError Fault.unfit))
  let trace ← supply.trace
  let session ← ExceptT.mk (pure (Session.start provider trace q.debug))
  pure (catalog, session)

/-- The lookup of an inquiry. -/
def locate {m : Type → Type} [Monad m] (q : Inquiry) (supply : Supply m) :
    ExceptT Fault m (Catalog × Session × Location) := do
  let (catalog, session) ← q.load supply
  let step := session.locate
    { address := q.address, target := q.target, catalog := .catalog catalog }
  for notice in step.events.filterMap Notice.ofEvent? do
    supply.note notice
  let location ← ExceptT.mk (pure step.answer)
  pure (catalog, step.session, location)

/-- The step and the index that are looked up; one of them is absent. -/
def stepAndIndex : Target → Option Integer × Option Integer
  | .step n => (some n, none)
  | .index n => (none, some n)

/-- What a report knows before it has an entry. -/
def background (q : Inquiry) (catalog : Catalog) (session : Session) (location : Location)
    (source : Option Source) : Report :=
  let known := (Report.setCatalog {} catalog).setGenerated q.address
    (session.generatedSources q.address)
  match source with
  | some source => known.setSource location.fileKey source
  | none => known

/-- The entry of a location in a report. -/
def entryIn (q : Inquiry) (report : Report) (location : Location) : ReportEntry :=
  let (step, index) := stepAndIndex q.target
  report.entry q.address location step index

/-- Adds an entry to a report and gives notice of it, if the entry can be shown. -/
def conclude {m : Type → Type} [Monad m] (supply : Supply m) (report : Report)
    (entry : ReportEntry) : m (Except Unfit Report) :=
  match entry.text with
  | .ok text => do
    supply.note (.answered text)
    pure (.ok (report.addEntry entry))
  | .error u => pure (.error u)

/-- The report of a location. -/
def describe {m : Type → Type} [Monad m] (q : Inquiry) (supply : Supply m) (catalog : Catalog)
    (session : Session) (location : Location) : m (Except Unfit Report) := do
  let source ← match catalog.compiledName? location.fileKey with
    | some name => supply.source? name
    | none => pure none
  let report := q.background catalog session location source
  conclude supply report (q.entryIn report location)

/-- The report of an inquiry. -/
def answer {m : Type → Type} [Monad m] (q : Inquiry) (supply : Supply m) :
    m (Except Unfit Report) := do
  match ← (q.locate supply).run with
  | .ok (catalog, session, location) => q.describe supply catalog session location
  | .error (.unfit u) => pure (.error u)
  | .error f =>
    supply.note (.unanswered q.address f)
    pure (.ok (Report.addError {} q.address f.message))

end Inquiry

end EvmLocator
