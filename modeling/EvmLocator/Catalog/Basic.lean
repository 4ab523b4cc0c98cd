import EvmLocator.Bytecode.Compare
import EvmLocator.Catalog.Artifact
import EvmLocator.Table

/-!
# Catalogs of compiled contracts

A catalog holds the contracts of a compiler output by file and name, in document order, and the
names of its sources by id.  A code observed on chain is attributed to the first contract, in that
order, whose artifact accounts for it; a contract without a deployed artifact is passed over, even
when the observed code is one that creates a contract.
-/

namespace EvmLocator

/-- The contracts and sources of a compiler output. -/
structure Catalog where
  files : List (String × List (String × Contract)) := []
  sources : Table Scalar String := []

namespace Catalog

/-! ## Reading -/

/-- Reads the contracts of one file at a path. -/
def readFile (path : Path) (v : Json) : Except SchemaError (List (String × Contract)) := do
  let ms ← Reading.object path v
  Reading.members Contract.read path ms

/-- The catalog of a contracts section, with the given source names. -/
def ofContracts (contracts : Json) (sources : Table Scalar String) :
    Except SchemaError Catalog := do
  let path := Path.root "contracts"
  let ms ← Reading.object path contracts
  let files ← Reading.members (fun _ path v => readFile path v) path ms
  pure { files, sources }

/-- Reads the id of a source at a path, when it has an integer one. -/
def readSourceId (path : Path) (v : Json) : Except SchemaError (Option Integer) := do
  let ms ← Reading.object path v
  pure (Integer.ofJson? (Reading.memberOr "id" .null ms))

/-- The names of sources by id: an id that comes again keeps its place and takes the later name. -/
def sourceTable (ids : List (String × Option Integer)) : Table Scalar String :=
  Table.ofEntries (ids.filterMap fun entry => entry.2.map fun id => (id.toScalar, entry.1))

/-- The catalog of a whole compiler output. -/
def ofOutput (output : Json) : Except SchemaError Catalog := do
  let ms ← Reading.object (.root "output") output
  let path := Path.root "sources"
  let sourceMembers ← Reading.object path (Reading.memberOr "sources" (.obj []) ms)
  let ids ← Reading.members (fun _ path v => readSourceId path v) path sourceMembers
  ofContracts (Reading.memberOr "contracts" (.obj []) ms) (sourceTable ids)

/-! ## Contracts and sources -/

/-- Every contract with its file and its name, in document order. -/
def contracts (c : Catalog) : List (String × String × Contract) :=
  c.files.flatMap fun file => file.2.map fun entry => (file.1, entry.1, entry.2)

/-- The number of contracts. -/
def size (c : Catalog) : Nat :=
  c.files.foldr (fun file n => file.2.length + n) 0

/-- The contract `name` of a file. -/
def contract? (c : Catalog) (file name : String) : Option Contract :=
  (Table.get? file c.files).bind fun entries => Table.get? name entries

/-- The name of the compiled source with the given id. -/
def compiledName? (c : Catalog) (id : Scalar) : Option String :=
  Table.get? id c.sources

/-- The name of the source with the given id: a compiled source if there is one, else the first
generated source with that id, else null. -/
def sourceName (c : Catalog) (id : Scalar) (generated : List GeneratedSource) : Json :=
  match c.compiledName? id with
  | some name => .str name
  | none => match generated.find? fun g => g.id.toScalar.same id with
    | some g => g.name
    | none => .null

/-! ## Attribution of a code -/

/-- The artifacts that may account for a code, in catalog order. -/
def candidates (c : Catalog) (creation : Bool) : List Artifact :=
  c.contracts.filterMap fun entry =>
    if entry.2.2.deployed.isSome then entry.2.2.artifact? creation else none

/-- The outcome of comparing a code with an artifact. -/
def compareWith (observed : List Char) (a : Artifact) : Bytecode.Verdict :=
  Bytecode.compare observed a.object.toList a.wildcards

/-- The first artifact that accounts for a code, and the places of the placeholders that were
found cut short before it. -/
def search (observed : List Char) : List Artifact → Option Artifact × List Nat
  | [] => (none, [])
  | a :: rest => match compareWith observed a with
    | .agrees => (some a, [])
    | .differs => search observed rest
    | .truncatedPlaceholder offset =>
      let (found, offsets) := search observed rest
      (found, offset :: offsets)

/-- The artifact that a code is attributed to is the first candidate that it matches. -/
theorem fst_search (observed : List Char) (artifacts : List Artifact) :
    (search observed artifacts).1 = artifacts.find? fun a => (compareWith observed a).isMatch := by
  induction artifacts with
  | nil => rfl
  | cons a rest ih =>
      cases h : compareWith observed a <;> simp [search, h, Bytecode.Verdict.isMatch, ih]

end Catalog

/-- A catalog for one lookup: read already, or to be read from a contracts section when it is
needed. -/
inductive CatalogSource where
  | catalog (c : Catalog)
  | document (contracts : Json)

/-- The catalog itself. -/
def CatalogSource.resolve (source : CatalogSource) : Except SchemaError Catalog :=
  match source with
  | catalog c => .ok c
  | document contracts => Catalog.ofContracts contracts []

end EvmLocator
