import EvmLocator.Slice
import EvmLocator.Source.Position
import EvmLocator.Utf8

/-!
# Source files

The offsets of a source map count bytes, so a source file is kept as its bytes.  The text of a
location is the slice that it names, decoded leniently, since a slice may cut a character in two.
-/

namespace EvmLocator

/-- A source file. -/
structure Source where
  content : List UInt8

namespace Source

/-- The source file whose content is a text. -/
def ofText (s : List Char) : Source :=
  { content := Utf8.encode s }

/-- The offsets of the line ends. -/
def breaks (s : Source) : List Nat :=
  lineBreaks 0x0a s.content

/-- The text of a location; nothing if it does not say where it begins or how long it is. -/
def excerpt (s : Source) (l : Location) : List Char :=
  match l.start, l.length with
  | some start, some length => Utf8.decodeLossy (Slice.between s.content start (start + length))
  | _, _ => []

/-- The positions at which a location begins and ends. -/
def span (s : Source) (l : Location) : Option Span :=
  Span.ofLocation (s.breaks.map Int.ofNat) l

end Source

end EvmLocator
