import EvmLocator.Catalog.Basic
import EvmLocator.Instruction.Disassembly
import EvmLocator.Session.Provider
import EvmLocator.Session.Trace

/-!
# Sessions

A session follows one trace.  It keeps the codes that it has loaded, the codes registered for
creations, and for each address the source map that its code was attributed to.

Three rules govern what is kept.  A loaded code is reused for an address but never for a creation
token, which can stand for different constructors.  A source map is kept under an address but
never under a token.  Loading a trace forgets the codes and the registrations, but not the source
maps.

An operation yields a `Step`: its answer, the session after it, and what happened on the way.
-/

namespace EvmLocator

/-- A code that a session has loaded. -/
structure LoadedCode where
  bytecode : List Char
  instructions : List Instruction
  indexByPc : List (Nat × Nat)

/-- The source map that the code of an address was attributed to. -/
structure MatchedMap where
  map : Option String
  generatedSources : Option (List GeneratedSource)

/-- The state of a session. -/
structure Session where
  provider : Provider
  debug : Bool := false
  trace : List Json := []
  codes : Table String LoadedCode := []
  registered : Table String Json := []
  maps : Table String MatchedMap := []

/-- What happens during an operation besides its answer. -/
inductive Event where
  | fetched (address : String)
  | truncatedPlaceholder (offset : Nat)
  | unmatched (address : String)
  deriving DecidableEq

/-- The outcome of an operation. -/
structure Step (α : Type) where
  answer : Except Fault α
  session : Session
  events : List Event := []

/-! ## Codes -/

namespace LoadedCode

/-- The text of a code, where a document may hold nothing or something else. -/
def textOf (code : Json) : Except Unfit (List Char) :=
  if code.truthy then
    match code with
    | .str s => .ok s.toList
    | _ => .error .lacksOperation
  else .ok []

/-- The code of an address as a session keeps it. -/
def ofText (address : String) (code : List Char) : Except Fault LoadedCode :=
  let bytecode := Bytecode.normalize code
  if bytecode = Bytecode.mark then .error (.fetch address .noCode)
  else match disassemble bytecode with
    | .ok instructions =>
      .ok { bytecode, instructions, indexByPc := Instruction.indexByPc instructions }
    | .error e => .error (.fetch address (.malformed e))

/-- The code of an address as a session keeps it, from a document. -/
def ofJson (address : String) (code : Json) : Except Fault LoadedCode :=
  match textOf code with
  | .ok text => ofText address text
  | .error u => .error (.unfit u)

/-- The index of the instruction at a program counter. -/
def indexAt (code : LoadedCode) (pc : Scalar) : Option Nat :=
  (code.indexByPc.find? fun entry => pc.same (.int entry.1)).map Prod.snd

end LoadedCode

namespace Session

/-- A session of a provider in which nothing has happened yet. -/
def fresh (provider : Provider) (debug : Bool) : Session :=
  { provider, debug }

/-- Replaces the trace, and forgets the codes and the registrations. -/
def loadTrace (s : Session) (trace : Json) : Except Fault Session :=
  match Trace.stepsOf trace with
  | .ok steps => .ok { s with trace := steps, codes := [], registered := [] }
  | .error f => .error f

/-- A session of a provider that follows a trace, or none if the trace is null. -/
def start (provider : Provider) (trace : Json) (debug : Bool) : Except Fault Session :=
  match trace with
  | .null => .ok (fresh provider debug)
  | trace => (fresh provider debug).loadTrace trace

/-- Registers the code of a creation, and forgets the one loaded under its token. -/
def register (s : Session) (token : String) (code : Json) : Session :=
  { s with registered := s.registered.put token code, codes := s.codes.erase token }

/-- Keeps the code of an address. -/
def keep (s : Session) (address : String) (code : Json) : Except Fault LoadedCode × Session :=
  match LoadedCode.ofJson address code with
  | .ok loaded => (.ok loaded, { s with codes := s.codes.put (Address.key address) loaded })
  | .error f => (.error f, s)

/-- Where the code of an address is to be had. -/
inductive CodeOrigin where
  | loaded (code : LoadedCode)
  | registered (code : Json)
  | provider

/-- Where the code of an address is to be had: among the loaded codes unless the address is a
creation token, else among the registered ones, else from the provider. -/
def codeOrigin (s : Session) (address : String) : CodeOrigin :=
  match if Address.isCreation address then none else s.codes.get? (Address.key address) with
  | some code => .loaded code
  | none => match s.registered.get? address with
    | some code => .registered code
    | none => .provider

/-- Takes the code of an address from the provider and keeps it. -/
def fetch (s : Session) (address : String) : Except Fault LoadedCode × Session :=
  match s.provider.fetch address with
  | .ok code => s.keep address code
  | .error r => (.error (.fetch address (.refused r)), s)

/-- The code of an address. -/
def getCode (s : Session) (address : String) : Step LoadedCode :=
  match s.codeOrigin address with
  | .loaded code => { answer := .ok code, session := s }
  | .registered code =>
    let (answer, after) := s.keep address code
    { answer, session := after }
  | .provider =>
    let (answer, after) := s.fetch address
    { answer, session := after, events := [.fetched address] }

/-! ## Steps of the trace -/

/-- The index of the instruction that a step executes in the code of an address. -/
def instructionIndex (s : Session) (address : String) (step : Integer) : Except Fault Nat :=
  match s.codes.get? (Address.key address) with
  | none => .error (.trace (.notLoaded address))
  | some code => do
    let pc ← Trace.counterAt s.trace step
    match pc.scalar? with
    | none => .error (.unfit .wrongKind)
    | some pc => match code.indexAt pc with
      | some index => .ok index
      | none => .error (.stepAtNoInstruction pc step address)

/-! ## Source maps -/

/-- The source map of the contract that a code is attributed to, if there is one. -/
def findMap (address : String) (observed : List Char) (catalog : Catalog) :
    Option MatchedMap × List Event :=
  let (found, offsets) :=
    Catalog.search observed (catalog.candidates (Address.isCreation address))
  (found.map fun a => { map := a.sourceMap, generatedSources := a.generatedSources },
    offsets.map .truncatedPlaceholder)

/-- Attributes a code to a contract and keeps its source map, unless the address is a creation
token. -/
def identify (s : Session) (address : String) (observed : List Char) (source : CatalogSource) :
    Step MatchedMap :=
  match source.resolve with
  | .error e => { answer := .error (.catalog e), session := s }
  | .ok catalog => match findMap address observed catalog with
    | (none, events) =>
      { answer := .error (.noSourceMap address), session := s
        events := events ++ [.unmatched address] }
    | (some map, events) =>
      let maps :=
        if Address.isCreation address then s.maps else s.maps.put (Address.key address) map
      { answer := .ok map, session := { s with maps }, events }

/-- The generated sources of the contract that an address was attributed to, in a session that
shows them. -/
def generatedSources (s : Session) (address : String) : Option (List GeneratedSource) :=
  if s.debug then (s.maps.get? (Address.key address)).bind MatchedMap.generatedSources else none

/-- Forgets the source maps. -/
def clearCache (s : Session) : Session :=
  { s with maps := [] }

end Session

end EvmLocator
