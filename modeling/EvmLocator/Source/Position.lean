import EvmLocator.SourceMap.Location

/-!
# Lines and columns

The lines of a content are found from the offsets of its line ends.  A position stands on the line
whose number is the count of line ends before it, a line end on the line that it closes; the
column is the distance from the first position of the line.  Lines and columns count from zero.

The offsets count whatever the content is a sequence of: bytes for a file, characters for a text.
-/

namespace EvmLocator

/-- A line and a column, both counted from zero. -/
structure Position where
  line : Nat
  column : Int
  deriving DecidableEq

/-- The positions at which a location begins and ends. -/
structure Span where
  first : Position
  last : Position
  deriving DecidableEq

/-- The offsets at which `newline` stands in a content. -/
def lineBreaks {α : Type} [BEq α] (newline : α) (content : List α) : List Nat :=
  content.zipIdx.filterMap fun item => if item.1 == newline then some item.2 else none

namespace Position

/-- The position of an offset among the offsets of line ends, which are in ascending order. -/
def ofOffset (breaks : List Int) (offset : Int) : Position :=
  let passed := (breaks.takeWhile fun b => b ≤ offset).length
  let line := if 0 < passed ∧ breaks[passed - 1]? = some offset then passed - 1 else passed
  let begin := if line = 0 then 0 else breaks.getD (line - 1) 0 + 1
  { line, column := offset - begin }

end Position

/-- The positions at which a location begins and ends, if it says where and neither number is
below zero. -/
def Span.ofLocation (breaks : List Int) (l : Location) : Option Span :=
  match l.start, l.length with
  | some start, some length =>
    if 0 ≤ start ∧ 0 ≤ length then
      some
        { first := Position.ofOffset breaks start
          last := Position.ofOffset breaks (start + length) }
    else none
  | _, _ => none

end EvmLocator
