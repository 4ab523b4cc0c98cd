import EvmLocator.Notice
import EvmLocator.Proofs.Json.Showing

/-!
# Entries that can be shown

The notice of an entry shows the name of its file, or the id of the file where there is no name, the
line and the column at which it begins, counted from one, and the two numbers of its location.  It is
given exactly if all of these can be written.  The numbers of a source map are no longer than what
can be read, but a column that is counted from one may have a digit more.

## Main results

* `ReportEntry.writtenIff_text`: which entries can be shown.
-/

namespace EvmLocator

open Text Text.IntegerLiteral

theorem Json.writtenIff_text_ofInt? (n : Option Int) :
    WrittenIff (∀ k ∈ n.toList, Fits k) (Json.ofInt? n).text := by
  cases n with
  | none => exact (WrittenIff.ok _).congr (by simp)
  | some n => exact (writtenIff_write n).congr (by simp)

theorem Location.writtenIff_text_fileKey (l : Location) :
    WrittenIff (∀ k ∈ l.file.toList, Fits k) l.fileKey.text := by
  have htext : l.fileKey.text = (Json.ofInt? l.file).text := by
    unfold fileKey
    cases l.file <;> rfl
  rw [htext]
  exact Json.writtenIff_text_ofInt? l.file

namespace ReportEntry

/-- The integers by which an entry names its file. -/
def fileIntegers (e : ReportEntry) : List Int :=
  if e.fileName.truthy then e.fileName.integers else e.location.file.toList

/-- The integers by which an entry says where it begins. -/
def beginIntegers (e : ReportEntry) : List Int :=
  match e.passage.bind Passage.span with
  | some span => [span.first.line + 1, span.first.column + 1]
  | none => []

/-- The integers that the notice of an entry shows. -/
def integers (e : ReportEntry) : List Int :=
  e.fileIntegers ++ e.beginIntegers ++ e.location.start.toList ++ e.location.length.toList

variable (e : ReportEntry)

theorem writtenIff_fileText : WrittenIff (∀ n ∈ e.fileIntegers, Fits n) e.fileText := by
  unfold fileText fileIntegers
  split
  · exact e.fileName.writtenIff_text
  · exact e.location.writtenIff_text_fileKey.bind_ok _

theorem writtenIff_beginText : WrittenIff (∀ n ∈ e.beginIntegers, Fits n) e.beginText := by
  unfold beginText beginIntegers
  cases e.passage.bind Passage.span with
  | none => exact (WrittenIff.ok _).congr (by simp)
  | some span =>
      have hplace := (writtenIff_write (span.first.line + 1)).bind fun line =>
        (writtenIff_write (span.first.column + 1)).bind_ok fun column => s!":{line}:{column}"
      exact hplace.congr (by simp)

/-- **An entry is shown exactly if the integers that its notice shows can be written.** -/
theorem writtenIff_text : WrittenIff (∀ n ∈ e.integers, Fits n) e.text := by
  have hjump : ∀ jump, WrittenIff True (Json.ofString? jump).text := by
    intro jump
    cases jump <;> exact WrittenIff.ok _
  unfold text integers
  refine WrittenIff.congr ?_ (e.writtenIff_fileText.bind fun _ => e.writtenIff_beginText.bind fun _ =>
    (Json.writtenIff_text_ofInt? e.location.start).bind fun _ =>
      (Json.writtenIff_text_ofInt? e.location.length).bind fun _ => (hjump _).bind_ok _)
  simp only [List.forall_mem_append, and_assoc, and_true]

end ReportEntry

end EvmLocator
