import EvmLocator.Json.Basic

/-!
# Writing JSON documents

A document is written in ASCII: a string shows the characters from the space to the tilde as they
are, escapes the quote and the backslash, names six controls by a letter, and writes everything
else by UTF-16 units of four lower-case hexadecimal digits.

Two layouts share the scalars and the strings.  `pretty` puts each part of a container on a line
of its own, four spaces deeper than the container, and writes an empty container without a line
end; `compact` puts a document on one line.

A document that holds an integer too long to be written has no text in either layout.
-/

namespace EvmLocator.Json

/-- The escape of one UTF-16 unit. -/
def unitEscape (n : Nat) : List Char :=
  '\\' :: 'u' :: Text.hexDigits 4 n

/-- One character of a string in a document. -/
def escapeChar (c : Char) : List Char :=
  match c with
  | '"' => ['\\', '"']
  | '\\' => ['\\', '\\']
  | '\n' => ['\\', 'n']
  | '\r' => ['\\', 'r']
  | '\t' => ['\\', 't']
  | '\x08' => ['\\', 'b']
  | '\x0c' => ['\\', 'f']
  | c =>
    let n := c.toNat
    if 0x20 ≤ n ∧ n ≤ 0x7e then [c]
    else if n < 0x10000 then unitEscape n
    else unitEscape (0xd800 + (n - 0x10000) / 0x400) ++ unitEscape (0xdc00 + (n - 0x10000) % 0x400)

/-- A string in a document. -/
def stringText (s : String) : String :=
  String.ofList ('"' :: s.toList.flatMap escapeChar ++ ['"'])

/-- A value without parts in a document. -/
def scalarText : Scalar → Except Unfit String
  | .null => .ok "null"
  | .bool b => .ok (if b then "true" else "false")
  | .int n => Text.IntegerLiteral.write n
  | .real x => .ok (x.text Binary64.documentLayout)
  | .str s => .ok (stringText s)

/-- A line end and the indentation of depth `depth`. -/
def newline (depth : Nat) : String :=
  String.ofList ('\n' :: List.replicate (4 * depth) ' ')

/-- The parts of a container between its brackets, each on a line of its own. -/
def enclose (opening closing : String) (depth : Nat) (parts : List String) : String :=
  if parts.isEmpty then opening ++ closing
  else
    let inner := newline (depth + 1)
    opening ++ inner ++ ("," ++ inner).intercalate parts ++ newline depth ++ closing

mutual

/-- A value at depth `depth`, each part of a container on a line of its own. -/
def prettyAt (depth : Nat) : Json → Except Unfit String
  | null => scalarText .null
  | bool b => scalarText (.bool b)
  | int n => scalarText (.int n)
  | real x => scalarText (.real x)
  | str s => scalarText (.str s)
  | arr items => do
    let parts ← prettyItems (depth + 1) items
    pure (enclose "[" "]" depth parts)
  | obj members => do
    let parts ← prettyMembers (depth + 1) members
    pure (enclose "\x7b" "\x7d" depth parts)

/-- The items of an array at depth `depth`. -/
def prettyItems (depth : Nat) : List Json → Except Unfit (List String)
  | [] => .ok []
  | x :: rest => do
    let first ← prettyAt depth x
    let others ← prettyItems depth rest
    pure (first :: others)

/-- The members of an object at depth `depth`. -/
def prettyMembers (depth : Nat) : List (String × Json) → Except Unfit (List String)
  | [] => .ok []
  | (name, v) :: rest => do
    let first ← prettyAt depth v
    let others ← prettyMembers depth rest
    pure ((stringText name ++ ": " ++ first) :: others)

end

/-- A document with each part of a container on a line of its own. -/
def pretty (v : Json) : Except Unfit String :=
  prettyAt 0 v

mutual

/-- A document on one line. -/
def compact : Json → Except Unfit String
  | null => scalarText .null
  | bool b => scalarText (.bool b)
  | int n => scalarText (.int n)
  | real x => scalarText (.real x)
  | str s => scalarText (.str s)
  | arr items => do
    let parts ← compactItems items
    pure ("[" ++ ",".intercalate parts ++ "]")
  | obj members => do
    let parts ← compactMembers members
    pure ("\x7b" ++ ",".intercalate parts ++ "\x7d")

/-- The items of an array on one line. -/
def compactItems : List Json → Except Unfit (List String)
  | [] => .ok []
  | x :: rest => do
    let first ← compact x
    let others ← compactItems rest
    pure (first :: others)

/-- The members of an object on one line. -/
def compactMembers : List (String × Json) → Except Unfit (List String)
  | [] => .ok []
  | (name, v) :: rest => do
    let first ← compact v
    let others ← compactMembers rest
    pure ((stringText name ++ ":" ++ first) :: others)

end

end EvmLocator.Json
