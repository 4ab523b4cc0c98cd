import EvmLocator.Number.Shortest
import EvmLocator.Table
import EvmLocator.Text.IntegerLiteral
import EvmLocator.Text.Quoted

/-!
# JSON values

Compiler outputs, traces and code tables come as JSON documents, and parts of them are handed on
unseen: a generated source keeps its syntax tree, a trace step its members.  A document is kept as
it was read: members in the order of the text, integers of any size, other numbers as the binary64
number nearest to them.

A `Scalar` is a value without parts.  Scalars serve as keys (the program counter of a step, the id
of a source), where numbers compare by value whatever their spelling: `true` is `1` and `2.0` is
`2`.

## Main definitions

* `Json`, `Scalar`: values, and values without parts.
* `Json.member?`, `Json.truthy`, `Json.kindWord`: what reading a document asks of a value.
* `Scalar.same`, `Json.same`: equality by value.
* `Json.text`, `Json.literal`: a value in a message, bare and quoted, unless it holds an integer
  that is too long to be written.
-/

namespace EvmLocator

/-- A JSON value. -/
inductive Json where
  | null
  | bool (b : Bool)
  | int (n : Int)
  | real (x : Binary64)
  | str (s : String)
  | arr (items : List Json)
  | obj (members : List (String × Json))
  deriving Inhabited

/-- A JSON value without parts. -/
inductive Scalar where
  | null
  | bool (b : Bool)
  | int (n : Int)
  | real (x : Binary64)
  | str (s : String)
  deriving DecidableEq

namespace Scalar

/-- The integer that a scalar counts as: a truth value counts as one or zero. -/
def integer? : Scalar → Option Int
  | bool b => some (if b then 1 else 0)
  | int n => some n
  | _ => none

/-- Whether two scalars are the same key. -/
def same : Scalar → Scalar → Bool
  | null, null => true
  | str s, str t => s == t
  | real x, real y => x.equals y
  | real x, b => match b.integer? with
    | some n => x.equalsInt n
    | none => false
  | a, real y => match a.integer? with
    | some n => y.equalsInt n
    | none => false
  | a, b => match a.integer?, b.integer? with
    | some m, some n => m == n
    | _, _ => false

instance : BEq Scalar := ⟨same⟩

/-- The scalar as a message shows it. -/
def text : Scalar → Except Unfit String
  | null => .ok "None"
  | bool b => .ok (if b then "True" else "False")
  | int n => Text.IntegerLiteral.write n
  | real x => .ok (x.text Binary64.plainLayout)
  | str s => .ok s

/-- The scalar as a JSON value. -/
def toJson : Scalar → Json
  | null => .null
  | bool b => .bool b
  | int n => .int n
  | real x => .real x
  | str s => .str s

end Scalar

/-! ## Reading a document -/

namespace Json

/-- The value without parts that a JSON value is, when it has no parts. -/
def scalar? : Json → Option Scalar
  | null => some .null
  | bool b => some (.bool b)
  | int n => some (.int n)
  | real x => some (.real x)
  | str s => some (.str s)
  | _ => none

/-- The value of the member `name`, when the value is an object that has one. -/
def member? (name : String) : Json → Option Json
  | obj members => Table.get? name members
  | _ => none

/-- Whether a value stands for something: not null, false, zero, or empty. -/
def truthy : Json → Bool
  | null => false
  | bool b => b
  | int n => n != 0
  | real x => !x.isZero
  | str s => !s.isEmpty
  | arr items => !items.isEmpty
  | obj members => !members.isEmpty

/-- The word by which a message names the kind of a value. -/
def kindWord : Json → String
  | null => "NoneType"
  | bool _ => "bool"
  | int _ => "int"
  | real _ => "float"
  | str _ => "str"
  | arr _ => "list"
  | obj _ => "dict"

/-! ## Equality by value -/

mutual

/-- Whether two values are equal: numbers by value, arrays item by item, objects member by member
in any order. -/
def same : Json → Json → Bool
  | arr xs, arr ys => sameItems xs ys
  | obj ms, obj ns => ms.length == ns.length && sameMembers ms ns
  | a, b => match a.scalar?, b.scalar? with
    | some x, some y => x.same y
    | _, _ => false

/-- Whether two lists of values are equal item by item. -/
def sameItems : List Json → List Json → Bool
  | [], [] => true
  | x :: xs, y :: ys => same x y && sameItems xs ys
  | _, _ => false

/-- Whether every member of the first list has an equal member in the second. -/
def sameMembers : List (String × Json) → List (String × Json) → Bool
  | [], _ => true
  | (name, v) :: rest, ns =>
    (match Table.get? name ns with
      | some w => same v w
      | none => false) && sameMembers rest ns

end

/-! ## Values in messages -/

mutual

/-- A value as a message quotes it: strings between quotes, and the parts of a value in order
between brackets. -/
def literal : Json → Except Unfit String
  | null => Scalar.null.text
  | bool b => (Scalar.bool b).text
  | int n => (Scalar.int n).text
  | real x => (Scalar.real x).text
  | str s => .ok (Text.quoted s)
  | arr items => do
    let parts ← literalItems items
    pure ("[" ++ ", ".intercalate parts ++ "]")
  | obj members => do
    let parts ← literalMembers members
    pure ("\x7b" ++ ", ".intercalate parts ++ "\x7d")

/-- The quoted forms of a list of values. -/
def literalItems : List Json → Except Unfit (List String)
  | [] => .ok []
  | x :: rest => do
    let first ← literal x
    let others ← literalItems rest
    pure (first :: others)

/-- The quoted forms of a list of members. -/
def literalMembers : List (String × Json) → Except Unfit (List String)
  | [] => .ok []
  | (name, v) :: rest => do
    let first ← literal v
    let others ← literalMembers rest
    pure ((Text.quoted name ++ ": " ++ first) :: others)

end

/-- A value as a message shows it: a string bare, anything else as `literal` has it. -/
def text : Json → Except Unfit String
  | str s => .ok s
  | v => v.literal

end Json

end EvmLocator
