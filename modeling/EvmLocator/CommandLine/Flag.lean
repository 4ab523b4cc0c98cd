import EvmLocator.Text.Quoted

/-!
# Options of the command line

Every option has a long name and most have a short one.  Some take a value, and the values of two
of them are integers.  Two pairs of options exclude each other.
-/

namespace EvmLocator.CommandLine

/-- An option of the command line. -/
inductive Flag where
  | help
  | address
  | index
  | step
  | trace
  | rpc
  | code
  | block
  | sourceRoot
  | generatedSources
  | output
  | version
  deriving DecidableEq

namespace Flag

/-- All options, in the order in which messages list them. -/
def all : List Flag :=
  [help, address, index, step, trace, rpc, code, block, sourceRoot, generatedSources, output,
    version]

/-- The names of an option. -/
def names : Flag → List String
  | help => ["-h", "--help"]
  | address => ["-a", "--address"]
  | index => ["-i", "--index"]
  | step => ["-s", "--step"]
  | trace => ["-t", "--trace"]
  | rpc => ["--rpc"]
  | code => ["-c", "--code"]
  | block => ["-b", "--block"]
  | sourceRoot => ["-r", "--source_root"]
  | generatedSources => ["-g", "--generated_sources"]
  | output => ["-o", "--output"]
  | version => ["-v", "--version"]

/-- The option as a message names it. -/
def label (f : Flag) : String :=
  "/".intercalate f.names

/-- Whether the option takes a value. -/
def takesValue : Flag → Bool
  | help | generatedSources | version => false
  | _ => true

/-- What the option is for. -/
def purpose : Flag → String
  | help => "show this text and exit"
  | address => "address of the executing contract, or a creation token"
  | index => "index of the instruction in the contract code"
  | step => "step of the trace (requires --trace)"
  | trace => "file with the trace of a transaction"
  | rpc => "url of the node that serves codes"
  | code => "file with an object that maps addresses to codes"
  | block => "block at which codes are fetched"
  | sourceRoot => "directory that source file names are relative to"
  | generatedSources => "report the sources that the compiler generated"
  | output => "directory for the results"
  | version => "show the version and exit"

/-- The option of which it says that both may not be given, when there is one. -/
def rival? : Flag → Option Flag
  | index => some step
  | step => some index
  | rpc => some code
  | code => some rpc
  | _ => none

/-- Every name with its option. -/
def table : List (String × Flag) :=
  all.flatMap fun f => f.names.map fun name => (name, f)

/-- The option with the given name. -/
def named? (name : String) : Option Flag :=
  (table.find? fun entry => entry.1 == name).map Prod.snd

end Flag

/-- Why a command line is refused. -/
inductive Misuse where
  | valueExpected (f : Flag)
  | notAnInteger (f : Flag) (text : String)
  | valueNotTaken (f : Flag) (text : String)
  | rivals (f other : Flag)
  | ambiguous (word : String) (candidates : List String)
  | missing (labels : List String)
  | missingOneOf (flags : List Flag)
  | unrecognized (words : List String)
  | stepWithoutTrace
  deriving DecidableEq

namespace Misuse

/-- The text that names an option before saying what is wrong with it. -/
def about (f : Flag) (text : String) : String :=
  "argument " ++ f.label ++ ": " ++ text

/-- The misuse as a message shows it. -/
def message : Misuse → String
  | valueExpected f => about f "expected one argument"
  | notAnInteger f text => about f ("invalid int value: " ++ Text.quoted text)
  | valueNotTaken f text => about f ("ignored explicit argument " ++ Text.quoted text)
  | rivals f other => about f ("not allowed with argument " ++ other.label)
  | ambiguous word candidates =>
    "ambiguous option: " ++ word ++ " could match " ++ ", ".intercalate candidates
  | missing labels => "the following arguments are required: " ++ ", ".intercalate labels
  | missingOneOf flags =>
    "one of the arguments " ++ " ".intercalate (flags.map Flag.label) ++ " is required"
  | unrecognized words => "unrecognized arguments: " ++ " ".intercalate words
  | stepWithoutTrace => "--step requires --trace"

end Misuse

end EvmLocator.CommandLine
