import EvmLocator.Catalog.Basic
import EvmLocator.Json.Printer
import EvmLocator.Source.Content

/-!
# Reports

A report collects the answers to lookups, located entries and errors apart, together with the
generated sources of the addresses that were looked up.  An entry shows a location in three ways:
by its fields, by the name of its file, and, when the file is at hand, by the lines and columns it
spans and the text it covers.

A report is written as a JSON document whose members stand in a fixed order, if none of its
numbers is too long to be written.
-/

namespace EvmLocator

/-! ## Answers as JSON values -/

/-- A number that may be absent. -/
def Json.ofInt? : Option Int → Json
  | some n => .int n
  | none => .null

/-- A text that may be absent. -/
def Json.ofString? : Option String → Json
  | some s => .str s
  | none => .null

namespace Location

/-- The key under which the file of the location is found. -/
def fileKey (l : Location) : Scalar :=
  match l.file with
  | some id => .int id
  | none => .null

/-- The location as a JSON value. -/
def toJson (l : Location) : Json :=
  .obj [("start", .ofInt? l.start), ("length", .ofInt? l.length), ("file", .ofInt? l.file),
    ("jump", .ofString? l.jump), ("modifier_depth", .ofInt? l.modifierDepth)]

end Location

/-- The position as a JSON value. -/
def Position.toJson (p : Position) : Json :=
  .obj [("line", .int p.line), ("column", .int p.column)]

/-- The ends of a span as a JSON value; both are null when there is no span. -/
def Span.toJson : Option Span → Json
  | some span => .obj [("start", span.first.toJson), ("end", span.last.toJson)]
  | none => .obj [("start", .null), ("end", .null)]

/-! ## Reports -/

/-- What the file of a location shows at that location. -/
structure Passage where
  span : Option Span
  content : List Char

/-- The answer to one lookup. -/
structure ReportEntry where
  address : String
  step : Option Integer
  index : Option Integer
  location : Location
  fileName : Json
  passage : Option Passage

/-- The answers to lookups, and what is known of the sources meanwhile. -/
structure Report where
  catalog : Option Catalog := none
  sources : Table Scalar Source := []
  generated : Table String (List GeneratedSource) := []
  entries : List ReportEntry := []
  errors : List String := []

/-- What a source file shows at a location. -/
def Source.passage (source : Source) (l : Location) : Passage :=
  { span := source.span l, content := source.excerpt l }

namespace ReportEntry

/-- The lines and columns of an entry as a JSON value. -/
def lineColumn (e : ReportEntry) : Json :=
  match e.passage with
  | some p => Span.toJson p.span
  | none => .null

/-- The text of an entry as a JSON value. -/
def contentJson (e : ReportEntry) : Json :=
  match e.passage with
  | some p => .str (String.ofList p.content)
  | none => .null

/-- The entry as a JSON value. -/
def toJson (e : ReportEntry) : Json :=
  .obj [("address", .str e.address),
    ("step", (e.step.map Integer.toJson).getD .null),
    ("index", (e.index.map Integer.toJson).getD .null),
    ("location", e.location.toJson),
    ("file_name", e.fileName),
    ("line_column", e.lineColumn),
    ("content", e.contentJson)]

end ReportEntry

namespace Report

/-- Takes the file names from a catalog. -/
def setCatalog (r : Report) (c : Catalog) : Report :=
  { r with catalog := some c }

/-- Puts a source file at hand. -/
def setSource (r : Report) (id : Scalar) (source : Source) : Report :=
  { r with sources := r.sources.put id source }

/-- Shows the generated sources of an address, when there are any. -/
def setGenerated (r : Report) (address : String) : Option (List GeneratedSource) → Report
  | some sources => { r with generated := r.generated.put address sources }
  | none => r

/-- The name of the file of a location that was found for an address. -/
def fileName (r : Report) (address : String) (l : Location) : Json :=
  match r.catalog with
  | some c => c.sourceName l.fileKey ((r.generated.get? address).getD [])
  | none => .null

/-- The entry of a location that was found for an address. -/
def entry (r : Report) (address : String) (l : Location) (step index : Option Integer) :
    ReportEntry :=
  { address, step, index, location := l
    fileName := r.fileName address l
    passage := (r.sources.get? l.fileKey).map fun source => source.passage l }

/-- Adds an entry. -/
def addEntry (r : Report) (e : ReportEntry) : Report :=
  { r with entries := r.entries ++ [e] }

/-- Adds the error that a lookup for an address ended with. -/
def addError (r : Report) (address message : String) : Report :=
  { r with errors := r.errors ++ [address ++ ": " ++ message] }

/-- The generated sources of the addresses as a JSON value. -/
def generatedJson (r : Report) : Json :=
  .obj (r.generated.map fun item => (item.1, .arr (item.2.map GeneratedSource.toJson)))

/-- The report as a JSON value. -/
def toJson (r : Report) : Json :=
  .obj [("locations", .arr (r.entries.map ReportEntry.toJson)),
    ("generated_sources", r.generatedJson),
    ("errors", .arr (r.errors.map Json.str))]

/-- The report as the text of a document. -/
def document (r : Report) : Except Unfit String :=
  r.toJson.pretty

end Report

end EvmLocator
