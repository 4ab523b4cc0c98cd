import EvmLocator.Text.CaseTable

/-!
# Lower case

The full lower-case mapping of a text.  Every character but the capital sigma has one image,
whatever stands around it: ASCII by arithmetic, the capital I with a dot as two characters, the
rest by the rows of `capitalRows`.  The capital sigma has two: the final form at the end of a word,
that is, after a letter and not before one, where characters transparent to case are seen through.

`lowerFrom` walks the text once.  It carries what the sigma needs to know of the text to its left,
and looks at the text to its right only when it meets one.
-/

namespace EvmLocator.Text

/-- Whether a character is transparent to the case of its neighbours. -/
def isCaseIgnorable (c : Char) : Bool :=
  inRanges caseIgnorableRanges c.toNat

/-- Whether a character has a case that its neighbours can see. -/
def isCased (c : Char) : Bool :=
  inRanges casedRanges c.toNat

/-- The image of a character whose small form does not depend on its neighbours. -/
def lowerChar (c : Char) : List Char :=
  if c.toNat < 0x80 then [c.toLower]
  else if c.toNat = 0x130 then ['i', '\u0307']
  else match capitalRows.find? fun row => row.covers c.toNat with
    | some row => [Char.ofNat (row.small c.toNat)]
    | none => [c]

/-- Whether the first character that is not transparent to case has a case. -/
def startsCased : List Char → Bool
  | [] => false
  | c :: rest => if isCaseIgnorable c then startsCased rest else isCased c

/-- The lower case of a text that stands after a letter (`afterCased`) or not. -/
def lowerFrom (afterCased : Bool) : List Char → List Char
  | [] => []
  | c :: rest =>
    let image :=
      if c = 'Σ' then [if afterCased && !startsCased rest then 'ς' else 'σ'] else lowerChar c
    image ++ lowerFrom (if isCaseIgnorable c then afterCased else isCased c) rest

/-- The lower case of a text. -/
def lower (s : List Char) : List Char :=
  lowerFrom false s

/-- The lower case of a string. -/
def lowerString (s : String) : String :=
  String.ofList (lower s.toList)

@[simp] theorem lower_nil : lower [] = [] := rfl

@[simp] theorem toList_lowerString (s : String) : (lowerString s).toList = lower s.toList := by
  simp [lowerString]

end EvmLocator.Text
