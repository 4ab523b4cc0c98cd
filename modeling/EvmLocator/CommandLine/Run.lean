import EvmLocator.CommandLine.Invocation
import EvmLocator.Files.Basic
import EvmLocator.Inquiry
import EvmLocator.Json.Reader

/-!
# Runs

A run carries out what a command line asks for, on the files it is given.  It makes the directory
for its results first, then takes the documents from their files, answers the inquiry, and writes
the report as `results.json`.

A run ends in one of four ways: with a text that the command line asks for, with a refusal of the
command line, with a failure that leaves no report, or with a report.
-/

namespace EvmLocator.CommandLine

/-- Why a run leaves no report. -/
inductive Failure where
  | file (path : String) (f : FileFault)
  | notUtf8 (path : String)
  | notJson (path : String) (e : Json.ReadError)
  | unfit (u : Unfit)
  deriving DecidableEq

/-- The failure as a message shows it. -/
def Failure.message : Failure → String
  | file path f =>
    let reason := f.message
    s!"{path}: {reason}"
  | notUtf8 path => s!"{path}: not a text in UTF-8"
  | notJson path .malformed => s!"{path}: not a JSON document"
  | notJson path .numeralTooLong => s!"{path}: an integer has too many digits"
  | unfit .lacksOperation => "a value lacks the operation asked of it"
  | unfit .wrongKind => "a value is of the wrong kind for its use"
  | unfit .numeralTooLong => "an integer has too many digits to be written"

/-- How a run ends. -/
inductive Outcome where
  | shown (text : String)
  | refused (m : Misuse)
  | failed (f : Failure)
  | reported (r : Report)

/-- The exit code of a run. -/
def Outcome.exitCode : Outcome → UInt32
  | shown _ => 0
  | refused _ => 2
  | failed _ => 1
  | reported r => if r.errors.isEmpty then 0 else 1

/-- What the surroundings of a run provide. -/
structure Surroundings (m : Type → Type) where
  files : Files m
  /-- The name of the directory for the results when none is asked for. -/
  stamp : String
  /-- A node that serves codes, given its url and the block. -/
  node : String → String → String → Except Refusal Json

/-- A run under way: it collects notices and may fail. -/
abbrev Running (m : Type → Type) : Type → Type :=
  ExceptT Failure (StateT (List Notice) m)

/-! ## Texts that a command line asks for -/

/-- The name of the program. -/
def programName : String := "srcloc"

/-- The version of the program. -/
def version : String := "0.0.1"

/-- An option as the help text lists it. -/
def Flag.helpLine (f : Flag) : String :=
  let value := if f.takesValue then " VALUE" else ""
  "  " ++ ", ".intercalate f.names ++ value ++ ": " ++ f.purpose ++ "\n"

/-- The way to call the program. -/
def usage : String :=
  "usage: " ++ programName ++ " [options] -a ADDRESS (-i INDEX | -s STEP) artifacts\n"

/-- The help text. -/
def help : String :=
  usage ++ "\n  artifacts: file with the compiler output\n" ++
    String.join (Flag.all.map Flag.helpLine)

/-! ## Running -/

section

variable {m : Type → Type} [Monad m]

namespace Running

/-- Takes a notice. -/
def note (n : Notice) : Running m Unit :=
  modify fun notices => notices ++ [n]

/-- What a file operation gives, or the failure on its path. -/
def onFile {α : Type} (path : String) (operation : m (Except FileFault α)) : Running m α := do
  match ← operation with
  | .ok a => pure a
  | .error f => throw (.file path f)

/-- The document in a file. -/
def document (files : Files m) (path : String) : Running m Json := do
  let bytes ← onFile path (files.read path)
  match Utf8.decode? bytes with
  | none => throw (.notUtf8 path)
  | some text => match Json.read text with
    | .ok v => pure v
    | .error e => throw (.notJson path e)

/-- The source file with a name under a directory, or nothing and a notice. -/
def source? (files : Files m) (root name : String) : Running m (Option Source) := do
  let path := Files.join root name
  let there ← files.isFile path
  if there then
    let content ← onFile path (files.read path)
    pure (some { content })
  else
    note (.sourceMissing path)
    pure none

end Running

namespace Invocation

/-- A text that counts only when it is something. -/
def given (text : Option String) : Option String :=
  text.filter fun s => !s.isEmpty

/-- The provider of an invocation. -/
def provider (v : Invocation) (around : Surroundings m) :
    Running m (Except Unfit Provider) := do
  match given v.code with
  | some path =>
    let codes ← Running.document around.files path
    pure (Provider.ofJson codes)
  | none =>
    let url := (given v.rpc).getD "http://localhost:8545"
    let block := (given v.block).getD "latest"
    pure (.ok (.node (around.node url block)))

/-- The trace of an invocation, null if there is none. -/
def traceDocument (v : Invocation) (files : Files m) : Running m Json :=
  match v.trace with
  | some path => Running.document files path
  | none => pure .null

/-- What the inquiry of an invocation draws on. -/
def supply (v : Invocation) (around : Surroundings m) : Supply (Running m) :=
  { artifactsName := v.artifacts
    artifacts := Running.document around.files v.artifacts
    provider := v.provider around
    trace := v.traceDocument around.files
    source? := Running.source? around.files v.sourceRoot
    note := Running.note }

/-- The inquiry of an invocation. -/
def inquiry (v : Invocation) : Inquiry :=
  { address := v.address, target := v.target, debug := v.generatedSources }

/-- The directory for the results. -/
def directory (v : Invocation) (stamp : String) : String :=
  (given v.output).getD ("./output/" ++ stamp)

/-- The path of a file among the results. -/
def resultPath (v : Invocation) (stamp name : String) : String :=
  Files.join (v.directory stamp) name

/-- Adds notices to the log among the results. -/
def log (v : Invocation) (around : Surroundings m) (notices : List Notice) :
    m (Except FileFault Unit) :=
  let lines := String.join (notices.map fun n => n.line ++ "\n")
  around.files.append (v.resultPath around.stamp "running.log") (Utf8.encode lines.toList)

/-- Writes the report among the results.  The file is there before the text of the report is, so it
stays empty if there is none. -/
def writeReport (v : Invocation) (around : Surroundings m) (report : Report) :
    Running m Unit := do
  let path := v.resultPath around.stamp "results.json"
  match report.document with
  | .ok text => Running.onFile path (around.files.write path (Utf8.encode text.toList))
  | .error u =>
    Running.onFile path (around.files.write path [])
    throw (.unfit u)

/-- Carries out an invocation. -/
def carryOut (v : Invocation) (around : Surroundings m) : Running m Report := do
  let directory := v.directory around.stamp
  Running.onFile directory (around.files.makeDirectories directory)
  Running.onFile (v.resultPath around.stamp "running.log") (v.log around [])
  match ← v.inquiry.answer (v.supply around) with
  | .error u => throw (.unfit u)
  | .ok report =>
    v.writeReport around report
    pure report

end Invocation

/-- What the words of a command line lead to, and the notices on the way. -/
def run (around : Surroundings m) (words : List String) : m (Outcome × List Notice) := do
  match Invocation.read words with
  | .error .help => pure (.shown help, [])
  | .error .version => pure (.shown (version ++ "\n"), [])
  | .error (.misuse misuse) => pure (.refused misuse, [])
  | .ok v =>
    let (outcome, notices) ← (v.carryOut around).run.run []
    let _ ← v.log around notices
    match outcome with
    | .ok report => pure (.reported report, notices)
    | .error f => pure (.failed f, notices)

end

/-- The line that refuses a command line. -/
def refusal (misuse : Misuse) : String :=
  programName ++ ": error: " ++ misuse.message

end EvmLocator.CommandLine
