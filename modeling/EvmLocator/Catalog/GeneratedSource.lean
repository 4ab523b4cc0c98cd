import EvmLocator.Catalog.Reading

/-!
# Generated sources

The compiler may add sources of its own to a contract.  Such a source has an integer id and, as a
rule, contents; the rest of it is handed on as the document has it.
-/

namespace EvmLocator

/-- A source that the compiler generated. -/
structure GeneratedSource where
  id : Integer
  ast : Json
  contents : Option String
  name : Json
  language : Json

namespace GeneratedSource

/-- Reads a generated source at a path. -/
def read (path : Path) (v : Json) : Except SchemaError GeneratedSource := do
  let ms ← Reading.object path v
  match Integer.ofJson? (Reading.memberOr "id" .null ms) with
  | none => .error { path := .member path "id", fault := .idNotAnInteger }
  | some id =>
    let contents ← Reading.optionalText (.member path "contents")
      (Reading.memberOr "contents" (.str "") ms)
    pure
      { id
        ast := Reading.memberOr "ast" .null ms
        contents
        name := Reading.memberOr "name" .null ms
        language := Reading.memberOr "language" .null ms }

/-- The contents as a JSON value. -/
def contentsJson (g : GeneratedSource) : Json :=
  match g.contents with
  | some s => .str s
  | none => .null

/-- The source as a JSON value. -/
def toJson (g : GeneratedSource) : Json :=
  .obj [("id", g.id.toJson), ("ast", g.ast), ("contents", g.contentsJson), ("name", g.name),
    ("language", g.language)]

/-- Whether two sources are equal by value. -/
def same (g h : GeneratedSource) : Bool :=
  g.toJson.same h.toJson

/-- The source as a message shows it. -/
def text (g : GeneratedSource) : Except Unfit String := do
  let id ← g.id.text
  let name ← g.name.literal
  pure ("GeneratedSource(id=" ++ id ++ ", name=" ++ name ++ ")")

end GeneratedSource

end EvmLocator
