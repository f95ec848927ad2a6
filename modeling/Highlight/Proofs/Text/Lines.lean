import Highlight.Proofs.Text.Column
import Highlight.Text.Lines
import Mathlib.Algebra.Group.Nat.Defs

/-!
Contract: how long the lines of a document are.

Owns: the documents whose lines are short enough that every column is a number
of 32 bits. A line is a part of the document, so a short document is one of them.
-/

set_option autoImplicit false

namespace Highlight.Text

/-- At most one character is dropped from the end of a line. -/
theorem exists_dropCarriageReturn_append (line : List Char) :
    ∃ after, line = dropCarriageReturn line ++ after := by
  unfold dropCarriageReturn
  cases ends : beforeSuffix? line ['\r'] with
  | none => exact ⟨[], (List.append_nil line).symm⟩
  | some front => exact ⟨['\r'], (beforeSuffix?_eq_some_iff line ['\r'] front).mp ends⟩

namespace LineTable

/-- Every line of the document has fewer code units than there are numbers of 32 bits. -/
def LinesFit (table : LineTable) : Prop :=
  ∀ (number : Nat) (line : List Char), table.line number = some line → unitLength line < 2 ^ 32

/-- A line is a part of its document. -/
theorem exists_append_of_line
    {table : LineTable}
    {number : Nat}
    {line : List Char}
    (isLine : table.line number = some line) :
    ∃ before after, table.text = before ++ line ++ after := by
  simp only [LineTable.line, Option.bind_eq_bind, Option.bind_eq_some_iff] at isLine
  obtain ⟨start, -, content, sliced, isContent⟩ := isLine
  obtain ⟨before, after, textEq, -, -⟩ := exists_append_of_slice? sliced
  obtain ⟨ending, contentEq⟩ := exists_dropCarriageReturn_append content
  rw [Option.some.inj isContent] at contentEq
  exact ⟨before, ending ++ after, by rw [textEq, contentEq]; simp⟩

theorem linesFit_of_unitLength_lt
    {text : List Char}
    (short : unitLength text < 2 ^ 32) :
    (ofText text).LinesFit := by
  intro number line isLine
  obtain ⟨before, after, textEq⟩ := exists_append_of_line isLine
  have total : unitLength text = unitLength before + unitLength line + unitLength after := by
    rw [show text = before ++ line ++ after from textEq, unitLength_append, unitLength_append]
  omega

end LineTable

end Highlight.Text
