/-!
# Paths into a document

A message about a document names the offending value by the path that leads to it: a root, member
names after points, item numbers in brackets.
-/

namespace EvmLocator

/-- The way from the root of a document to one of its values. -/
inductive Path where
  | root (name : String)
  | member (parent : Path) (name : String)
  | item (parent : Path) (index : Nat)
  deriving DecidableEq

/-- The path as a message shows it. -/
def Path.text : Path → String
  | root name => name
  | member parent name => parent.text ++ "." ++ name
  | item parent index => parent.text ++ "[" ++ toString index ++ "]"

end EvmLocator
