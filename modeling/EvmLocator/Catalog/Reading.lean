import EvmLocator.Catalog.Path
import EvmLocator.Json.Integer

/-!
# Reading a compiler output

A compiler output is read against a schema, value by value in the order of the document, and the
first value that does not follow the schema ends the reading.  The functions here are the reading
of one kind of value at a path; the parts of a container are read by `items` and `members`, which
pass each part its own path.
-/

namespace EvmLocator

/-- What is wrong with a value of a document. -/
inductive SchemaFault where
  | notAnObject (kind : String)
  | notAString (kind : String)
  | notAList (kind : String)
  | notASourceList
  | boundsNotIntegers
  | idNotAnInteger
  deriving DecidableEq

/-- The fault as a message shows it. -/
def SchemaFault.message : SchemaFault → String
  | notAnObject kind => s!"expected an object, got {kind}"
  | notAString kind => s!"expected a string, got {kind}"
  | notAList kind => s!"expected a list, got {kind}"
  | notASourceList => "expected a list"
  | boundsNotIntegers => "start and length must be integers"
  | idNotAnInteger => "expected an integer source id"

/-- A value that does not follow the schema, and what is wrong with it. -/
structure SchemaError where
  path : Path
  fault : SchemaFault
  deriving DecidableEq

/-- The error as a message shows it. -/
def SchemaError.message (e : SchemaError) : String :=
  e.path.text ++ ": " ++ e.fault.message

namespace Reading

/-- The members of an object. -/
def object (path : Path) : Json → Except SchemaError (List (String × Json))
  | .obj members => .ok members
  | v => .error { path, fault := .notAnObject v.kindWord }

/-- The text that may be null. -/
def optionalText (path : Path) : Json → Except SchemaError (Option String)
  | .null => .ok none
  | .str s => .ok (some s)
  | v => .error { path, fault := .notAString v.kindWord }

/-- Reads the items of a list, of which the first has the number `index`. -/
def items {α : Type} (read : Path → Json → Except SchemaError α) (path : Path) (index : Nat) :
    List Json → Except SchemaError (List α)
  | [] => .ok []
  | v :: rest => do
    let x ← read (.item path index) v
    let xs ← items read path (index + 1) rest
    pure (x :: xs)

/-- Reads the members of an object, each under its name. -/
def members {α : Type} (read : String → Path → Json → Except SchemaError α) (path : Path) :
    List (String × Json) → Except SchemaError (List (String × α))
  | [] => .ok []
  | (name, v) :: rest => do
    let x ← read name (.member path name) v
    let xs ← members read path rest
    pure ((name, x) :: xs)

/-- The member `name`, or a value to stand for it when it is absent. -/
def memberOr (name : String) (absent : Json) (ms : List (String × Json)) : Json :=
  (Table.get? name ms).getD absent

end Reading

end EvmLocator
