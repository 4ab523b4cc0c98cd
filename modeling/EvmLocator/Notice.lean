import EvmLocator.Report
import EvmLocator.Session.Basic

/-!
# Notices

A run says on the way what it has done and what it could not do.  Each notice has a level and a
text, and the two make a line.

The text of an entry shows numbers of a location, and the line and column it begins at.  An entry
with a number that is too long to be written has none (`ReportEntry.text`).
-/

namespace EvmLocator

/-- What a run says on the way. -/
inductive Notice where
  | loaded (contracts : Nat) (path : String)
  | unmatched (address : String)
  | truncatedPlaceholder (offset : Nat)
  | sourceMissing (path : String)
  | unanswered (address : String) (f : Fault)
  | answered (text : String)

namespace ReportEntry

/-- The file of an entry as a message shows it. -/
def fileText (e : ReportEntry) : Except Unfit String :=
  if e.fileName.truthy then e.fileName.text
  else do
    let id ← e.location.fileKey.text
    pure ("source #" ++ id)

/-- The line and column of an entry as a message shows them, both counted from one. -/
def beginText (e : ReportEntry) : Except Unfit String :=
  match e.passage.bind Passage.span with
  | some span => do
    let line ← Text.IntegerLiteral.write (span.first.line + 1)
    let column ← Text.IntegerLiteral.write (span.first.column + 1)
    pure s!":{line}:{column}"
  | none => .ok ""

/-- The entry as a message shows it. -/
def text (e : ReportEntry) : Except Unfit String := do
  let file ← e.fileText
  let beginning ← e.beginText
  let offset ← (Json.ofInt? e.location.start).text
  let length ← (Json.ofInt? e.location.length).text
  let jump ← (Json.ofString? e.location.jump).text
  let address := e.address
  pure s!"{address} -> {file}{beginning} (offset {offset}, length {length}, jump {jump})"

end ReportEntry

namespace Notice

/-- The level of a notice. -/
def level : Notice → String
  | loaded .. | answered _ => "INFO"
  | unmatched _ | truncatedPlaceholder _ | sourceMissing _ => "WARNING"
  | unanswered .. => "ERROR"

/-- What a notice says. -/
def message : Notice → String
  | loaded contracts path => s!"Loaded {contracts} compiled contracts from {path}"
  | unmatched address => s!"no compiled contract matches the code at {address}"
  | truncatedPlaceholder offset =>
    s!"truncated link placeholder at offset {offset} in candidate bytecode"
  | sourceMissing path => s!"Source file not found: {path}"
  | unanswered address f =>
    let reason := f.message
    s!"No source available for {address}: {reason}"
  | answered text => text

/-- A notice as a line. -/
def line (n : Notice) : String :=
  n.level ++ " - " ++ n.message

/-- The notice of an event, for the events that are worth one. -/
def ofEvent? : Event → Option Notice
  | .fetched _ => none
  | .truncatedPlaceholder offset => some (truncatedPlaceholder offset)
  | .unmatched address => some (unmatched address)

end Notice

end EvmLocator
