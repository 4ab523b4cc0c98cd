import EvmLocator.CommandLine.Word
import EvmLocator.Session.Lookup
import EvmLocator.Text.IntegerLiteral

/-!
# Invocations

An invocation is what a command line asks for.  Its words are taken from left to right, and the
first one that is wrong ends the reading, as does a word that asks for the help text or the
version.  What is missing is looked for only when all words have been taken.

The first plain word names the artifacts; plain words beyond it, and options that do not exist, are
kept and refused at the end.
-/

namespace EvmLocator.CommandLine

/-- What the words so far have given. -/
structure Settings where
  artifacts : Option String := none
  address : Option String := none
  index : Option Int := none
  step : Option Int := none
  trace : Option String := none
  rpc : Option String := none
  code : Option String := none
  block : Option String := none
  sourceRoot : String := ""
  generatedSources : Bool := false
  output : Option String := none
  /-- The words that nothing takes. -/
  extras : List String := []

/-- Why a command line leads to no run. -/
inductive Halt where
  | help
  | version
  | misuse (m : Misuse)
  deriving DecidableEq

/-- What a command line asks for. -/
structure Invocation where
  artifacts : String
  address : String
  target : Target
  trace : Option String
  rpc : Option String
  code : Option String
  block : Option String
  sourceRoot : String
  generatedSources : Bool
  output : Option String

namespace Settings

/-- Whether an option that has a rival has been given. -/
def has (s : Settings) : Flag → Bool
  | .index => s.index.isSome
  | .step => s.step.isSome
  | .rpc => s.rpc.isSome
  | .code => s.code.isSome
  | _ => false

/-- Refuses an option whose rival has been given. -/
def checkRival (s : Settings) (f : Flag) : Except Halt Unit :=
  match f.rival? with
  | some other => if s.has other then .error (.misuse (.rivals f other)) else .ok ()
  | none => .ok ()

/-- The integer that the value of an option spells. -/
def integer (f : Flag) (text : String) : Except Halt Int :=
  match Text.IntegerLiteral.parse? text.toList with
  | some n => .ok n
  | none => .error (.misuse (.notAnInteger f text))

/-- Takes an option without a value. -/
def takeFlag (s : Settings) : Flag → Except Halt Settings
  | .help => .error .help
  | .version => .error .version
  | .generatedSources => .ok { s with generatedSources := true }
  | f => .error (.misuse (.valueExpected f))

/-- Takes an option with its value. -/
def takeValue (s : Settings) (f : Flag) (text : String) : Except Halt Settings :=
  match f with
  | .index => do
    let n ← integer f text
    s.checkRival f
    pure { s with index := some n }
  | .step => do
    let n ← integer f text
    s.checkRival f
    pure { s with step := some n }
  | .rpc => do
    s.checkRival f
    pure { s with rpc := some text }
  | .code => do
    s.checkRival f
    pure { s with code := some text }
  | .address => .ok { s with address := some text }
  | .trace => .ok { s with trace := some text }
  | .block => .ok { s with block := some text }
  | .sourceRoot => .ok { s with sourceRoot := text }
  | .output => .ok { s with output := some text }
  | f => .error (.misuse (.valueNotTaken f text))

/-- Keeps a word that nothing takes. -/
def keepExtra (s : Settings) (word : String) : Settings :=
  { s with extras := s.extras ++ [word] }

/-- Takes a plain word. -/
def takePlain (s : Settings) (text : String) : Settings :=
  match s.artifacts with
  | none => { s with artifacts := some text }
  | some _ => s.keepExtra text

end Settings

/-! ## Groups of short names -/

/-- An option of a group of short names, and the value that goes with it. -/
inductive Taking where
  | flag (f : Flag)
  | value (f : Flag) (text : String)
  /-- The option takes the next word as its value. -/
  | pending (f : Flag)
  | extra (word : String)

/-- The options that short names in one word stand for, where `f` is the first and `tail` follows
it.  The tail of an option with a value is that value; else its first character is the next short
name, and a dash or an unknown name ends the group. -/
def expand (f : Flag) : List Char → Except Halt (List Taking)
  | [] => .ok [if f.takesValue then .pending f else .flag f]
  | c :: rest =>
    if f.takesValue then .ok [.value f (String.ofList (c :: rest))]
    else if c = '-' then .error (.misuse (.valueNotTaken f (String.ofList (c :: rest))))
    else match Flag.named? (String.ofList ['-', c]) with
      | none => .ok [.flag f, .extra (String.ofList ('-' :: c :: rest))]
      | some g => match rest with
        | '=' :: value =>
          if g.takesValue then .ok [.flag f, .value g (String.ofList value)]
          else .error (.misuse (.valueNotTaken g (String.ofList value)))
        | rest => do
          let others ← expand g rest
          pure (.flag f :: others)

/-- The options that one word stands for. -/
def takings (f : Flag) : Attached → Except Halt (List Taking)
  | .nothing => .ok [if f.takesValue then .pending f else .flag f]
  | .value text =>
    if f.takesValue then .ok [.value f (String.ofList text)]
    else .error (.misuse (.valueNotTaken f (String.ofList text)))
  | .tail text => expand f text

/-- The option of a word that takes the next word as its value. -/
def pending? (ts : List Taking) : Option Flag :=
  match ts.getLast? with
  | some (.pending f) => some f
  | _ => none

namespace Settings

/-- Takes the options of one word, where `next` is the value for one that takes the next word. -/
def takeAll (s : Settings) (next : String) : List Taking → Except Halt Settings
  | [] => .ok s
  | .flag f :: rest => do
    let s ← s.takeFlag f
    s.takeAll next rest
  | .value f text :: rest => do
    let s ← s.takeValue f text
    s.takeAll next rest
  | .pending f :: rest => do
    let s ← s.takeValue f next
    s.takeAll next rest
  | .extra word :: rest => (s.keepExtra word).takeAll next rest

/-- Takes words before the end of the options.  An option that waits for a value needs a plain word
after it.  `named` says whether the word before these named the artifacts; so does the second part
of the outcome for the last of them. -/
def takeWords (s : Settings) (named : Bool) : List Word → Except Halt (Settings × Bool)
  | [] => .ok (s, named)
  | .plain text :: rest => (s.takePlain text).takeWords s.artifacts.isNone rest
  | .unknown text :: rest => (s.keepExtra text).takeWords false rest
  | .ambiguous text candidates :: _ => .error (.misuse (.ambiguous text candidates))
  | .option f _ attached :: rest => do
    let ts ← takings f attached
    match pending? ts, rest with
    | none, rest => do
      let s ← s.takeAll "" ts
      s.takeWords false rest
    | some _, .plain text :: rest => do
      let s ← s.takeAll text ts
      s.takeWords false rest
    | some g, _ => .error (.misuse (.valueExpected g))

/-- Takes the words after the end of the options.  The two dashes that end the options go with the
word that names the artifacts if they stand next to it; else nothing takes them. -/
def takeAfter (s : Settings) (named : Bool) : Option (List String) → Settings
  | none => s
  | some rest => match s.artifacts, rest with
    | none, text :: rest => { s with artifacts := some text, extras := s.extras ++ rest }
    | _, rest =>
      if named then { s with extras := s.extras ++ rest }
      else { s with extras := s.extras ++ "--" :: rest }

/-- What the words must name and do not. -/
def missing (s : Settings) : List String :=
  (if s.artifacts.isNone then ["artifacts"] else []) ++
    (if s.address.isNone then [Flag.address.label] else [])

/-- The location that is asked for. -/
def target? (s : Settings) : Option Target :=
  match s.step, s.index with
  | some n, _ => some (.step (.num n))
  | none, some n => some (.index (.num n))
  | none, none => none

/-- The invocation that complete settings describe. -/
def invocation (s : Settings) : Except Halt Invocation :=
  match s.artifacts, s.address with
  | some artifacts, some address => match s.target? with
    | none => .error (.misuse (.missingOneOf [.index, .step]))
    | some target =>
      if !s.extras.isEmpty then .error (.misuse (.unrecognized s.extras))
      else if s.step.isSome && (s.trace.getD "").isEmpty then .error (.misuse .stepWithoutTrace)
      else .ok
        { artifacts, address, target
          trace := s.trace
          rpc := s.rpc
          code := s.code
          block := s.block
          sourceRoot := s.sourceRoot
          generatedSources := s.generatedSources
          output := s.output }
  | _, _ => .error (.misuse (.missing s.missing))

end Settings

/-- What a command line asks for. -/
def Invocation.read (words : List String) : Except Halt Invocation := do
  let ws := Words.read words
  let (s, named) ← Settings.takeWords {} false ws.before
  (s.takeAfter named ws.after).invocation

end EvmLocator.CommandLine
