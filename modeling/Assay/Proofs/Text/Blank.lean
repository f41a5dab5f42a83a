import Assay.Text.Blank
import Mathlib.Data.List.DropRight

/-!
# Blank texts

A text is blank if it holds nothing but blank characters, which is to say that nothing is
left when those at its ends are removed.
-/

namespace Assay.Text

/-- Nothing is left of a text without blanks around it exactly if it has no other
characters. -/
theorem trim_eq_empty_iff (text : String) :
    trim text = "" ↔ ∀ character ∈ text.toList, isBlank character = true := by
  have stripped : trimList text.toList = [] ↔
      ∀ character ∈ text.toList.dropWhile isBlank, isBlank character = true :=
    List.rdropWhile_eq_nil_iff
  rw [trim, String.ofList_eq_empty_iff, stripped, ← List.dropWhile_eq_nil_iff,
    List.dropWhile_idempotent, List.dropWhile_eq_nil_iff]

theorem isBlankText_iff (text : String) : isBlankText text = true ↔ trim text = "" := by
  rw [isBlankText, List.all_eq_true, trim_eq_empty_iff]

end Assay.Text
