/-!
# Metadata trailers

A compiler ends a bytecode with a record of the metadata it was made from: fixed text around the
hash and the compiler's version, both of which differ from build to build.  There are three kinds.
Each has a fixed length, so a kind leaves only one place where its trailer can stand: at the end
of the code, or just before a line end that closes the code.

## Main definitions

* `Trailer.describes`: whether a text is exactly one trailer of a kind.
* `stripMetadata`: a code without the trailer at its end.
-/

namespace EvmLocator.Bytecode

/-- A piece of a trailer: fixed text, or a number of lower-case hexadecimal digits. -/
inductive Piece where
  | exact (text : List Char)
  | hex (count : Nat)

namespace Piece

/-- How long the piece is. -/
def length : Piece → Nat
  | exact text => text.length
  | hex count => count

/-- Whether a character is a lower-case hexadecimal digit. -/
def isHex (c : Char) : Bool :=
  ('0' ≤ c && c ≤ '9') || ('a' ≤ c && c ≤ 'f')

/-- Whether a text is an instance of the piece. -/
def accepts (s : List Char) : Piece → Bool
  | exact text => s == text
  | hex count => s.length == count && s.all isHex

end Piece

/-- The kinds of metadata trailers. -/
inductive Trailer where
  | swarm0
  | swarm1
  | ipfs
  deriving DecidableEq

namespace Trailer

/-- The kinds in the order in which they are looked for. -/
def all : List Trailer := [swarm0, swarm1, ipfs]

/-- The pieces of a trailer of the kind. -/
def pieces : Trailer → List Piece
  | swarm0 => [.exact "a165627a7a72305820".toList, .hex 64, .exact "0029".toList]
  | swarm1 =>
    [.exact "a265627a7a72315820".toList, .hex 64, .exact "64736f6c6343".toList, .hex 6,
      .exact "0032".toList]
  | ipfs =>
    [.exact "a264697066735822".toList, .hex 68, .exact "64736f6c6343".toList, .hex 6,
      .exact "0033".toList]

/-- Whether a text is exactly the pieces one after another. -/
def fits : List Piece → List Char → Bool
  | [], s => s.isEmpty
  | p :: rest, s => p.accepts (s.take p.length) && fits rest (s.drop p.length)

/-- Whether a text is exactly one trailer of the kind. -/
def describes (kind : Trailer) (s : List Char) : Bool :=
  fits kind.pieces s

/-- How long a trailer of the kind is. -/
def length (kind : Trailer) : Nat :=
  kind.pieces.foldr (fun p n => p.length + n) 0

/-- What stands before the trailer of the kind that ends a text. -/
def before? (kind : Trailer) (s : List Char) : Option (List Char) :=
  let cut := s.length - kind.length
  if kind.describes (s.drop cut) then some (s.take cut) else none

/-- A text without the trailer of the kind that ends it, or that stands before its last line
end. -/
def strip? (kind : Trailer) (s : List Char) : Option (List Char) :=
  match kind.before? s with
  | some r => some r
  | none =>
    if s.getLast? = some '\n' then (kind.before? s.dropLast).map fun r => r ++ ['\n'] else none

end Trailer

/-- A code without the metadata trailer at its end. -/
def stripMetadata (s : List Char) : List Char :=
  (Trailer.all.findSome? fun kind => kind.strip? s).getD s

end EvmLocator.Bytecode
