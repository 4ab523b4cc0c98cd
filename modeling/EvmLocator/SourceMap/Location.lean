/-!
# Source locations

A location says where in the sources an instruction comes from: the bytes of a file, the kind of
jump, and the depth of modifiers.  A field that no entry of a source map defines is absent.
-/

namespace EvmLocator

/-- Where an instruction comes from, as far as the source map says. -/
structure Location where
  start : Option Int := none
  length : Option Int := none
  file : Option Int := none
  jump : Option String := none
  modifierDepth : Option Int := none
  deriving DecidableEq

namespace Location

/-- Whether every field is defined. -/
def complete (l : Location) : Bool :=
  l.start.isSome && l.length.isSome && l.file.isSome && l.jump.isSome && l.modifierDepth.isSome

/-- The location with the fields that it leaves open taken from another. -/
def orElse (l other : Location) : Location :=
  { start := l.start <|> other.start
    length := l.length <|> other.length
    file := l.file <|> other.file
    jump := l.jump <|> other.jump
    modifierDepth := l.modifierDepth <|> other.modifierDepth }

end Location

end EvmLocator
