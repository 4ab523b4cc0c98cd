import EvmLocator.SourceMap.Location
import EvmLocator.Text.IntegerLiteral
import EvmLocator.Text.Split

/-!
# Entries of a source map

A source map has one entry per instruction, entries separated by semicolons and their fields by
colons.  An entry defines a field by a text other than the empty one; for the start and the length
the text `-1` defines nothing either.  A field that no text defines keeps what is already known of
it.

`Location.fill` adds one entry to what is known.  It reads only the fields that are still open, so
a malformed field that is already known does no harm.
-/

namespace EvmLocator

namespace SourceMap

/-- Why a source map gives no location.  An index that is out of range is named by its text, and
where it has none, that is the error. -/
inductive Error where
  | notText (kind : String)
  | outOfRange (index : String) (entries : Nat)
  | tooManyFields (entry : Nat) (text : List Char)
  | invalidField (entry : Nat) (text : List Char)
  | unfit (u : Unfit)
  deriving DecidableEq

/-- The error as a message shows it.  A value that is unfit for its use has no message. -/
def Error.message : Error → String
  | notText kind => s!"source map must be a string, got {kind}"
  | outOfRange index entries =>
    s!"instruction index {index} is out of range for a source map of {entries} entries"
  | tooManyFields entry text =>
    let shown := String.ofList text
    s!"source map entry {entry} has too many fields: '{shown}'"
  | invalidField entry text =>
    let shown := String.ofList text
    s!"invalid value '{shown}' in source map entry {entry}"
  | unfit _ => ""

/-- The number of fields of an entry. -/
def fieldCount : Nat := 5

/-- The entries of a source map. -/
def entries (map : List Char) : List (List Char) :=
  Text.split ';' map

/-- The number that a field of the entry `k` defines, if it is still open. -/
def readNumber (known : Option Int) (k : Nat) (field : List Char) : Except Error (Option Int) :=
  match known with
  | some n => .ok (some n)
  | none =>
    if field.isEmpty then .ok none
    else match Text.IntegerLiteral.parse? field with
      | some n => .ok (some n)
      | none => .error (.invalidField k field)

/-- The number that a start or length of the entry `k` defines, if it is still open: the text `-1`
leaves it open. -/
def readBound (known : Option Int) (k : Nat) (field : List Char) : Except Error (Option Int) :=
  if field = ['-', '1'] then .ok known else readNumber known k field

/-- The jump that a field defines, if it is still open. -/
def readJump (known : Option String) (field : List Char) : Option String :=
  match known with
  | some jump => some jump
  | none => if field.isEmpty then none else some (String.ofList field)

end SourceMap

open SourceMap in
/-- What is known after the entry `k`, whose text is `entry`. -/
def Location.fill (known : Location) (k : Nat) (entry : List Char) :
    Except SourceMap.Error Location :=
  let fields := Text.split ':' entry
  if fieldCount < fields.length then .error (.tooManyFields k entry)
  else do
    let start ← readBound known.start k (fields.getD 0 [])
    let length ← readBound known.length k (fields.getD 1 [])
    let file ← readNumber known.file k (fields.getD 2 [])
    let jump := readJump known.jump (fields.getD 3 [])
    let modifierDepth ← readNumber known.modifierDepth k (fields.getD 4 [])
    pure { start, length, file, jump, modifierDepth }

end EvmLocator
