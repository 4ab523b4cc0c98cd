import EvmLocator.Json.Basic

/-!
# Integers in a document

Where a document must hold an integer, a truth value counts as one or zero.  An answer that hands
such an integer on writes it as the document did, so its spelling is kept beside its value.
-/

namespace EvmLocator

/-- An integer as a document spells it: by a numeral, or by a truth value. -/
inductive Integer where
  | num (n : Int)
  | truth (b : Bool)
  deriving DecidableEq

namespace Integer

/-- The integer itself. -/
def value : Integer → Int
  | num n => n
  | truth b => if b then 1 else 0

/-- The integer as the document spells it. -/
def toScalar : Integer → Scalar
  | num n => .int n
  | truth b => .bool b

/-- The integer as a message shows it. -/
def text (n : Integer) : Except Unfit String :=
  n.toScalar.text

/-- The integer as a JSON value. -/
def toJson (n : Integer) : Json :=
  n.toScalar.toJson

/-- The integer that a JSON value is. -/
def ofJson? : Json → Option Integer
  | .int n => some (num n)
  | .bool b => some (truth b)
  | _ => none

theorem ofJson?_toJson (n : Integer) : ofJson? n.toJson = some n := by
  cases n <;> rfl

end Integer

end EvmLocator
