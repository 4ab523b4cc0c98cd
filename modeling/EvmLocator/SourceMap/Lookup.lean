import EvmLocator.Json.Integer
import EvmLocator.SourceMap.Entry

/-!
# Locations of a source map

There are two ways to a location.  `atIndex` walks back from one entry and stops as soon as every
field is known, so it reads no more than it needs.  `decode` walks forward over the whole map and
reads every field of every entry.

Both take an empty entry for one that defines nothing.
-/

namespace EvmLocator.SourceMap

/-- What is known after numbered entries, taken from the first on, until nothing is open. -/
def settle (known : Location) : List (List Char × Nat) → Except Error Location
  | [] => .ok known
  | (entry, k) :: earlier =>
    if entry.isEmpty then settle known earlier
    else do
      let known ← known.fill k entry
      if known.complete then pure known else settle known earlier

/-- The error of an index that is out of range for a number of entries. -/
def rangeError (index : Integer) (entries : Nat) : Error :=
  match index.text with
  | .ok shown => .outOfRange shown entries
  | .error u => .unfit u

/-- The location of the instruction with the given index. -/
def atIndex (index : Integer) (map : List Char) : Except Error Location :=
  let all := entries map
  if index.value < 0 ∨ all.length ≤ index.value then .error (rangeError index all.length)
  else settle {} (all.zipIdx.take (index.value.toNat + 1)).reverse

/-- The locations of numbered entries, where `last` is the location before the first of them. -/
def decodeFrom (last : Location) : List (List Char × Nat) → Except Error (List Location)
  | [] => .ok []
  | (entry, k) :: later =>
    if entry.isEmpty then do
      let rest ← decodeFrom last later
      pure (last :: rest)
    else do
      let own ← Location.fill {} k entry
      let location := own.orElse last
      let rest ← decodeFrom location later
      pure (location :: rest)

/-- The locations of all instructions. -/
def decode (map : List Char) : Except Error (List Location) :=
  decodeFrom {} (entries map).zipIdx

/-! ## Source maps as documents hold them -/

/-- The text of a source map, where a document may hold something else. -/
def textOf : Json → Except Error (List Char)
  | .str s => .ok s.toList
  | v => .error (.notText v.kindWord)

end EvmLocator.SourceMap
