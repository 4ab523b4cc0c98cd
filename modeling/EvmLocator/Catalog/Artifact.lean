import EvmLocator.Bytecode.Region
import EvmLocator.Catalog.GeneratedSource

/-!
# Artifacts and contracts

The compiler gives up to two artifacts for a contract: the code that creates it, and the code that
is deployed.  An artifact is a code with its source map, the regions whose bytes are filled in
later, and the sources that the compiler added.

The regions of an artifact are its immutables, then its links, each group in document order.
-/

namespace EvmLocator

/-- One of the two codes of a contract. -/
structure Artifact where
  object : String
  sourceMap : Option String
  generatedSources : Option (List GeneratedSource)
  immutables : List Region
  links : List Region

/-- A compiled contract. -/
structure Contract where
  name : String
  creation : Option Artifact
  deployed : Option Artifact

namespace Region

/-- Reads a region at a path. -/
def read (path : Path) (v : Json) : Except SchemaError Region := do
  let ms ← Reading.object path v
  match Integer.ofJson? (Reading.memberOr "start" .null ms),
      Integer.ofJson? (Reading.memberOr "length" .null ms) with
  | some start, some length => .ok { start, length }
  | _, _ => .error { path, fault := .boundsNotIntegers }

/-- Reads a list of regions at a path; null stands for the empty list. -/
def readAll (path : Path) : Json → Except SchemaError (List Region)
  | .null => .ok []
  | .arr vs => Reading.items read path 0 vs
  | v => .error { path, fault := .notAList v.kindWord }

end Region

namespace Artifact

/-- The regions whose bytes are filled in later. -/
def wildcards (a : Artifact) : List Region :=
  a.immutables ++ a.links

/-- Reads the generated sources at a path, when there are any. -/
def readGenerated (path : Path) : Json → Except SchemaError (Option (List GeneratedSource))
  | .null => .ok none
  | .arr vs => do
    let sources ← Reading.items GeneratedSource.read path 0 vs
    pure (some sources)
  | _ => .error { path, fault := .notASourceList }

/-- Reads an object whose members are lists of regions, and puts the lists together. -/
def readReferences (path : Path) (v : Json) : Except SchemaError (List Region) := do
  let ms ← Reading.object path v
  let lists ← Reading.members (fun _ path v => Region.readAll path v) path ms
  pure (lists.flatMap Prod.snd)

/-- Reads an object whose members are objects of lists of regions, and puts the lists together. -/
def readLinks (path : Path) (v : Json) : Except SchemaError (List Region) := do
  let ms ← Reading.object path v
  let lists ← Reading.members (fun _ path v => readReferences path v) path ms
  pure (lists.flatMap Prod.snd)

/-- Reads an artifact at a path. -/
def read (path : Path) (v : Json) : Except SchemaError Artifact := do
  let ms ← Reading.object path v
  let object ← Reading.optionalText (.member path "object")
    (Reading.memberOr "object" (.str "") ms)
  let sourceMap ← Reading.optionalText (.member path "sourceMap")
    (Reading.memberOr "sourceMap" .null ms)
  let generatedSources ← readGenerated (.member path "generatedSources")
    (Reading.memberOr "generatedSources" .null ms)
  let immutables ← readReferences (.member path "immutableReferences")
    (Reading.memberOr "immutableReferences" (.obj []) ms)
  let links ← readLinks (.member path "linkReferences")
    (Reading.memberOr "linkReferences" (.obj []) ms)
  pure { object := object.getD "", sourceMap, generatedSources, immutables, links }

/-- Reads an artifact at a path; null stands for none. -/
def readOptional (path : Path) : Json → Except SchemaError (Option Artifact)
  | .null => .ok none
  | v => do
    let a ← read path v
    pure (some a)

end Artifact

namespace Contract

/-- Reads the contract `name` at a path. -/
def read (name : String) (path : Path) (v : Json) : Except SchemaError Contract := do
  let ms ← Reading.object path v
  let evmPath := Path.member path "evm"
  let evm ← Reading.object evmPath (Reading.memberOr "evm" (.obj []) ms)
  let creation ← Artifact.readOptional (.member evmPath "bytecode")
    (Reading.memberOr "bytecode" .null evm)
  let deployed ← Artifact.readOptional (.member evmPath "deployedBytecode")
    (Reading.memberOr "deployedBytecode" .null evm)
  pure { name, creation, deployed }

/-- The code that creates the contract, or the one that is deployed. -/
def artifact? (c : Contract) (creation : Bool) : Option Artifact :=
  if creation then c.creation else c.deployed

end Contract

end EvmLocator
