import EvmLocator.CommandLine.Run
import Std.Time.DateTime.Timestamp

/-!
# The program

The command line on the files of the machine.  No node is within reach of it, so a code that is not
in a file cannot be had.
-/

namespace EvmLocator.Machine

/-- The fault of a file operation that the machine reports. -/
def faultOf : IO.Error → FileFault
  | .noFileOrDirectory .. | .noSuchThing .. => .missing
  | .alreadyExists .. => .occupied
  | .inappropriateType _ code _ => if code = 20 then .notDirectory else .isDirectory
  | _ => .denied

/-- What a file operation gives, or its fault. -/
def attempt {α : Type} (operation : IO α) : IO (Except FileFault α) := do
  try
    let a ← operation
    pure (.ok a)
  catch e => pure (.error (faultOf e))

/-- The bytes of a content. -/
def pack (content : List UInt8) : ByteArray :=
  ByteArray.mk content.toArray

/-- The content of a file. -/
def read (path : String) : IO (Except FileFault (List UInt8)) :=
  attempt do
    let bytes ← IO.FS.readBinFile path
    pure bytes.toList

/-- Adds to the content of a file. -/
def append (path : String) (content : List UInt8) : IO (Except FileFault Unit) :=
  attempt do
    let handle ← IO.FS.Handle.mk path .append
    handle.write (pack content)

/-- The files of the machine. -/
def files : Files IO where
  read := read
  isFile path := do
    match ← read path with
    | .ok _ => pure true
    | .error _ => pure false
  makeDirectories path := attempt (IO.FS.createDirAll path)
  write path content := attempt (IO.FS.writeBinFile path (pack content))
  append := append

/-- What the machine provides at a time given in seconds. -/
def surroundings (seconds : Int) : CommandLine.Surroundings IO :=
  { files, stamp := toString seconds
    node := fun url _ _ => .error (.other s!"no connection to {url}") }

/-- Shows how a run ended. -/
def present (outcome : CommandLine.Outcome) (notices : List Notice) : IO Unit := do
  for n in notices do
    IO.eprintln n.line
  match outcome with
  | .shown text => IO.print text
  | .refused misuse =>
    IO.eprint CommandLine.usage
    IO.eprintln (CommandLine.refusal misuse)
  | .failed f => IO.eprintln f.message
  | .reported _ => pure ()

end EvmLocator.Machine

/-- Runs a command line on the files of the machine. -/
def main (words : List String) : IO UInt32 := do
  let now ← Std.Time.Timestamp.now
  let around := EvmLocator.Machine.surroundings now.toSecondsSinceUnixEpoch.val
  let (outcome, notices) ← EvmLocator.CommandLine.run around words
  EvmLocator.Machine.present outcome notices
  pure outcome.exitCode
