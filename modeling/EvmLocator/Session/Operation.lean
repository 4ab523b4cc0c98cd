import EvmLocator.Session.Lookup

/-!
# Operations of a session

Everything that a client can ask of a session, as one type, and what each asks for as one
function.  An operation that fails leaves its mark on the session only as far as it came.
-/

namespace EvmLocator

/-- An operation of a session. -/
inductive Operation where
  | getCode (address : String)
  | loadTrace (trace : Json)
  | register (token : String) (code : Json)
  | record (address : String) (code : Json)
  | counter (step : Integer)
  | instructionIndex (address : String) (step : Integer)
  | locate (q : Lookup)
  | generatedSources (address : String)
  | clearCache
  | identify (address : String) (code : Json) (catalog : CatalogSource)
  | findMap (address : String) (code : Json) (catalog : CatalogSource)
  | gather (order : List Nat) (lookups : List Lookup)

/-- The answer to an operation. -/
inductive Answer where
  | done
  | code (code : LoadedCode)
  | counter (pc : Json)
  | index (index : Nat)
  | location (l : Location)
  | generatedSources (sources : Option (List GeneratedSource))
  | map (m : Option MatchedMap)
  | locations (answers : List (Except Fault Location))

namespace Step

/-- The same step with another form of its answer. -/
def map {α β : Type} (f : α → β) (step : Step α) : Step β :=
  { answer := match step.answer with
      | .ok a => .ok (f a)
      | .error e => .error e
    session := step.session
    events := step.events }

end Step

namespace Session

/-- The text of a code that is to be compared with the candidates of a catalog.  The code is looked
at only when there is a candidate to compare it with. -/
def observedText (address : String) (code : Json) (catalog : Catalog) : Except Unfit (List Char) :=
  if (catalog.candidates (Address.isCreation address)).isEmpty then .ok []
  else LoadedCode.textOf code

/-- Identifies the contract of a code from a document. -/
def identifyJson (s : Session) (address : String) (code : Json) (source : CatalogSource) :
    Step MatchedMap :=
  match source.resolve with
  | .error e => { answer := .error (.catalog e), session := s }
  | .ok catalog => match observedText address code catalog with
    | .ok observed => s.identify address observed (.catalog catalog)
    | .error u => { answer := .error (.unfit u), session := s }

/-- The source map that a code from a document would be attributed to; nothing is kept. -/
def findMapJson (s : Session) (address : String) (code : Json) (source : CatalogSource) :
    Step (Option MatchedMap) :=
  match source.resolve with
  | .error e => { answer := .error (.catalog e), session := s }
  | .ok catalog => match observedText address code catalog with
    | .ok observed =>
      let (found, events) := findMap address observed catalog
      { answer := .ok found, session := s, events }
    | .error u => { answer := .error (.unfit u), session := s }

/-- What an operation does. -/
def apply (s : Session) : Operation → Step Answer
  | .getCode address => (s.getCode address).map .code
  | .loadTrace trace => match s.loadTrace trace with
    | .ok after => { answer := .ok .done, session := after }
    | .error f => { answer := .error f, session := s }
  | .register token code => { answer := .ok .done, session := s.register token code }
  | .record address code =>
    { answer := .ok .done, session := { s with provider := s.provider.record address code } }
  | .counter step =>
    { answer := (Trace.counterAt s.trace step).map .counter, session := s }
  | .instructionIndex address step =>
    { answer := (s.instructionIndex address step).map .index, session := s }
  | .locate q => (s.locate q).map .location
  | .generatedSources address =>
    { answer := .ok (.generatedSources (s.generatedSources address)), session := s }
  | .clearCache => { answer := .ok .done, session := s.clearCache }
  | .identify address code source => (s.identifyJson address code source).map fun m => .map (some m)
  | .findMap address code source => (s.findMapJson address code source).map .map
  | .gather order lookups => (s.gather order lookups).map .locations

end Session

end EvmLocator
