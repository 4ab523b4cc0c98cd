import EvmLocator.Session.Basic
import EvmLocator.SourceMap.Lookup

/-!
# Lookups

A lookup asks for the location of an instruction, given by its index or by the step of the trace
that executes it.  If the source map of its address is kept, it answers at once; else it needs the
code of the address, attributes it to a contract, and answers from that contract's source map.

A lookup waits at one point only, when it has asked the provider for a code.  `begin` is the part
before that point and `resume` the part after it; `locate` is the two in a row.  Between them other
lookups may run, which is what `gather` describes: every lookup runs up to its waiting point in
order, and those that wait are then resumed.  The order in which they resume is a parameter.
-/

namespace EvmLocator

/-- What a lookup asks for. -/
inductive Target where
  | index (index : Integer)
  | step (step : Integer)

/-- A lookup. -/
structure Lookup where
  address : String
  target : Target
  catalog : CatalogSource

/-- A lookup after its first part. -/
inductive Progress where
  | finished (step : Step Location)
  | waiting

namespace Session

/-- The answer of a lookup whose source map is known. -/
def answer (s : Session) (q : Lookup) (m : MatchedMap) : Except Fault Location := do
  let index ← match q.target with
    | .index index => .ok index
    | .step step => (s.instructionIndex q.address step).map fun n => .num n
  let found := match m.map with
    | some map => SourceMap.atIndex index map.toList
    | none => .error (.notText Json.null.kindWord)
  match found with
  | .ok location => .ok location
  | .error e => .error (.ofMap e)

/-- The rest of a lookup once the code of its address is had, or cannot be. -/
def complete (s : Session) (q : Lookup) : Except Fault LoadedCode → Step Location
  | .error f => { answer := .error f, session := s }
  | .ok code =>
    let attributed := s.identify q.address code.bytecode q.catalog
    { attributed with
      answer := match attributed.answer with
        | .ok m => attributed.session.answer q m
        | .error f => .error f }

/-- The part of a lookup before it waits for a code. -/
def begin (s : Session) (q : Lookup) : Progress :=
  match s.maps.get? (Address.key q.address) with
  | some m => .finished { answer := s.answer q m, session := s }
  | none => match s.codeOrigin q.address with
    | .loaded code => .finished (s.complete q (.ok code))
    | .registered code =>
      let (kept, after) := s.keep q.address code
      .finished (after.complete q kept)
    | .provider => .waiting

/-- The part of a lookup after it has waited for a code. -/
def resume (s : Session) (q : Lookup) : Step Location :=
  let (fetched, after) := s.fetch q.address
  after.complete q fetched

/-- A lookup that nothing comes between. -/
def locate (s : Session) (q : Lookup) : Step Location :=
  match s.begin q with
  | .finished step => step
  | .waiting =>
    let step := s.resume q
    { step with events := .fetched q.address :: step.events }

end Session

/-! ## Lookups side by side -/

/-- A lookup among others: it has its answer, or it waits. -/
inductive Slot where
  | finished (answer : Except Fault Location)
  | waiting (q : Lookup)

/-- Lookups under way. -/
structure Gathering where
  session : Session
  events : List Event
  slots : List Slot

namespace Gathering

/-- Runs lookups one after another up to their waiting points. -/
def launch (s : Session) : List Lookup → Gathering
  | [] => { session := s, events := [], slots := [] }
  | q :: rest => match s.begin q with
    | .finished step =>
      let others := launch step.session rest
      { session := others.session
        events := step.events ++ others.events
        slots := .finished step.answer :: others.slots }
    | .waiting =>
      let others := launch s rest
      { session := others.session
        events := .fetched q.address :: others.events
        slots := .waiting q :: others.slots }

/-- Resumes the lookup number `i`, if it waits. -/
def resumeAt (g : Gathering) (i : Nat) : Gathering :=
  match g.slots[i]? with
  | some (.waiting q) =>
    let step := g.session.resume q
    { session := step.session
      events := g.events ++ step.events
      slots := g.slots.set i (.finished step.answer) }
  | _ => g

/-- Resumes the lookups that still wait, in order, and collects all answers. -/
def finish (s : Session) : List Slot → Session × List Event × List (Except Fault Location)
  | [] => (s, [], [])
  | .finished answer :: rest =>
    let (after, events, answers) := finish s rest
    (after, events, answer :: answers)
  | .waiting q :: rest =>
    let step := s.resume q
    let (after, events, answers) := finish step.session rest
    (after, step.events ++ events, step.answer :: answers)

end Gathering

/-- Runs lookups side by side.  Those that wait are resumed in the given order of their numbers,
and any that the order leaves out in the order in which they began. -/
def Session.gather (s : Session) (order : List Nat) (lookups : List Lookup) :
    Step (List (Except Fault Location)) :=
  let g := order.foldl Gathering.resumeAt (Gathering.launch s lookups)
  let (after, events, answers) := Gathering.finish g.session g.slots
  { answer := .ok answers, session := after, events := g.events ++ events }

end EvmLocator
