import EvmLocator.Bytecode.Mask
import EvmLocator.Bytecode.Metadata
import EvmLocator.Bytecode.Normal
import EvmLocator.Bytecode.Region

/-!
# Comparing an observed code with a compiled one

The code found on chain is the compiled code with some places filled in: the addresses of linked
libraries, the values of immutables, the library's own address in the guard at its start.  It may
end in another metadata trailer, and after that in constructor arguments.  `compare` decides
whether an observed code can have come from a candidate: the places that may differ are masked in
both codes, the trailers are cut off, and the candidate must then begin the observed code.

A candidate without code matches nothing, and a candidate whose last placeholder is cut short is
reported as such.
-/

namespace EvmLocator.Bytecode

/-- The outcome of comparing an observed code with a candidate. -/
inductive Verdict where
  | agrees
  | differs
  | truncatedPlaceholder (offset : Nat)
  deriving DecidableEq

/-- Whether the candidate accounts for the observed code. -/
def Verdict.isMatch : Verdict → Bool
  | agrees => true
  | _ => false

/-- The start of a deployed library, which pushes its own address in place of the zeros. -/
def libraryGuard : List Char :=
  "73".toList ++ List.replicate 40 '0' ++ "3014".toList

/-- Whether a code in normal form begins with the library guard. -/
def hasGuard (code : List Char) : Bool :=
  libraryGuard.isPrefixOf (body code)

/-- A code in normal form with the address in the library guard overwritten. -/
def maskGuard (code : List Char) : List Char :=
  zeroRegion code 4 40

/-- A code in normal form with the given regions overwritten. -/
def maskRegions (regions : List Region) (code : List Char) : List Char :=
  regions.foldl (fun c r => zeroRegion c r.position r.width) code

/-- A code in normal form with windows and regions overwritten, without its trailer. -/
def core (ws : List Nat) (regions : List Region) (code : List Char) : List Char :=
  stripMetadata (maskRegions regions (maskWindows ws code))

/-- The comparison of two codes in normal form, place by place. -/
def compareMasked (observed candidate : List Char) (regions : List Region) : Verdict :=
  let observed := if hasGuard candidate then maskGuard observed else observed
  match windows candidate with
  | .error offset => .truncatedPlaceholder offset
  | .ok ws =>
    let candidate := core ws regions candidate
    if candidate = mark then .differs
    else if candidate.isPrefixOf (core ws regions observed) then .agrees
    else .differs

/-- Whether an observed code can have come from a candidate whose bytes in `regions` were not yet
known. -/
def compare (observed candidate : List Char) (regions : List Region) : Verdict :=
  let observed := normalize observed
  let candidate := normalize candidate
  if candidate = mark then .differs
  else if observed = candidate then .agrees
  else compareMasked observed candidate regions

end EvmLocator.Bytecode
