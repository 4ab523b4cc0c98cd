import EvmLocator.Json.Token

/-!
# Reading JSON documents

A document is read from its tokens by a machine with a stack.  The stack holds the containers that
are open, each with the parts read so far, so every step looks at one token and the nesting of the
document is no nesting of calls.  A member that is written twice keeps the place of its first
writing and the value of its last.
-/

namespace EvmLocator.Json

/-- An open container with its parts so far, the latest first.  An object waits for the value of
the member `name`. -/
inductive Frame where
  | array (items : List Json)
  | object (members : List (String × Json)) (name : String)

/-- What the machine expects next. -/
inductive Reading where
  | value (stack : List Frame)
  | firstItem (stack : List Frame)
  | firstName (stack : List Frame)
  | nextName (members : List (String × Json)) (stack : List Frame)
  | colon (members : List (String × Json)) (name : String) (stack : List Frame)
  | afterItem (items : List Json) (stack : List Frame)
  | afterMember (members : List (String × Json)) (stack : List Frame)
  | finished (v : Json)

namespace Reading

/-- Gives a complete value to the innermost open container. -/
def deliver (v : Json) : List Frame → Reading
  | [] => finished v
  | .array items :: stack => afterItem (v :: items) stack
  | .object members name :: stack => afterMember ((name, v) :: members) stack

/-- A token where a value is expected. -/
def open? (stack : List Frame) : Token → Except ReadError Reading
  | .openArray => .ok (firstItem stack)
  | .openObject => .ok (firstName stack)
  | .scalar s => .ok (deliver s.toJson stack)
  | _ => .error .malformed

/-- One token. -/
def step : Reading → Token → Except ReadError Reading
  | value stack, t => open? stack t
  | firstItem stack, .closeArray => .ok (deliver (.arr []) stack)
  | firstItem stack, t => open? (.array [] :: stack) t
  | firstName stack, .closeObject => .ok (deliver (.obj []) stack)
  | firstName stack, .scalar (.str name) => .ok (colon [] name stack)
  | nextName members stack, .scalar (.str name) => .ok (colon members name stack)
  | colon members name stack, .colon => .ok (value (.object members name :: stack))
  | afterItem items stack, .comma => .ok (value (.array items :: stack))
  | afterItem items stack, .closeArray => .ok (deliver (.arr items.reverse) stack)
  | afterMember members stack, .comma => .ok (nextName members stack)
  | afterMember members stack, .closeObject =>
    .ok (deliver (.obj (Table.ofEntries members.reverse)) stack)
  | _, _ => .error .malformed

/-- The document that the tokens complete. -/
def run : Reading → List Token → Except ReadError Json
  | finished v, [] => .ok v
  | _, [] => .error .malformed
  | state, t :: rest => do
    let next ← state.step t
    run next rest

end Reading

/-- The document that a text spells. -/
def read (s : List Char) : Except ReadError Json := do
  let ts ← tokens s
  (Reading.value []).run ts

end EvmLocator.Json
