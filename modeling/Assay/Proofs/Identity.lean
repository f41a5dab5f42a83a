import Assay.Files.FileSystem
import Assay.Identity

/-!
# Identities as names

The text of an identity has no slash in it, so it is one name as a path.  It is neither
empty nor the name of the folder around; the dot is the only one that leads nowhere.
-/

namespace Assay

theorem Text.pieces_of_not_mem
    {separator : Char} {characters : List Char} (absent : separator ∉ characters) :
    pieces separator characters = [characters] := by
  induction characters with
  | nil => rfl
  | cons character rest induction =>
      rw [List.mem_cons, not_or] at absent
      simp [pieces, induction absent.2, Ne.symm absent.1]

/-- The parts before a separator and those after it are apart. -/
theorem Text.pieces_append
    {separator : Char} (left right : List Char) :
    pieces separator (left ++ separator :: right) =
      pieces separator left ++ pieces separator right := by
  induction left with
  | nil =>
      obtain ⟨first, later, shape⟩ :=
        List.exists_cons_of_ne_nil (pieces_ne_nil separator right)
      simp [pieces, shape]
  | cons character left induction =>
      obtain ⟨first, later, shape⟩ :=
        List.exists_cons_of_ne_nil (pieces_ne_nil separator left)
      rw [List.cons_append, pieces, pieces, induction, shape]
      simp only [List.cons_append]
      split <;> rfl

namespace Identity

theorem text_injective {left right : Identity} (same : left.text = right.text) : left = right := by
  cases left
  cases right
  cases same
  rfl

theorem text_of_ofText
    {text : String} {identity : Identity} (accepted : ofText text = .ok identity) :
    identity.text = text := by
  rw [ofText] at accepted
  split at accepted
  · rw [← Except.ok.inj accepted]
  · split at accepted <;> contradiction

theorem slash_not_mem (identity : Identity) : '/' ∉ identity.text.toList := by
  intro slash
  have acceptable := identity.acceptable
  simp [isAcceptable, leavesEntry, slash] at acceptable

theorem text_ne_outer (identity : Identity) : identity.text ≠ ".." := by
  intro outer
  have acceptable := identity.acceptable
  rw [outer] at acceptable
  contradiction

theorem text_ne_empty (identity : Identity) : identity.text ≠ "" := by
  intro empty
  have acceptable := identity.acceptable
  rw [empty] at acceptable
  contradiction

theorem isIdleName_text_iff (identity : Identity) :
    Path.isIdleName identity.text = true ↔ identity.text = "." := by
  simp [Path.isIdleName, identity.text_ne_empty]

theorem isIdleName_text_of_ne {identity : Identity} (notDot : identity.text ≠ ".") :
    Path.isIdleName identity.text = false :=
  Bool.eq_false_iff.mpr (mt identity.isIdleName_text_iff.mp notDot)

/-- The text of an identity is one name, not a path of several. -/
theorem path_ofText (identity : Identity) :
    Path.ofText identity.text = ⟨false, [identity.text]⟩ := by
  rw [Path.ofText, Text.pieces_of_not_mem identity.slash_not_mem]
  simp

end Identity

end Assay
