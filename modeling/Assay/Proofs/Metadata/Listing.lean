import Assay.Metadata
import Assay.Proofs.Text.ByteOrder

/-!
# The order of listings

Definitions are listed by module and, within a module, by name.  A listing has
the definitions that it was made of, each as often as before.  As long as no two
of them share module and name, it does not show in which order they came.
-/

namespace Assay.Metadata

theorem listedBefore_iff (left right : Metadata) :
    left.listedBefore right = true ↔
      left.moduleName < right.moduleName ∨
        (left.moduleName = right.moduleName ∧ left.name ≤ right.name) := by
  simp only [listedBefore, Bool.or_eq_true, Bool.and_eq_true, decide_eq_true_eq, beq_iff_eq,
    Bool.not_eq_true', decide_eq_false_iff_not, String.not_lt]

/-- The order of pairs of module and name, by the bytes of each. -/
def InByteOrder (left right : Metadata) : Prop :=
  Text.bytes left.moduleName < Text.bytes right.moduleName ∨
    left.moduleName = right.moduleName ∧ Text.bytes left.name ≤ Text.bytes right.name

theorem listedBefore_iff_inByteOrder (left right : Metadata) :
    left.listedBefore right = true ↔ left.InByteOrder right := by
  rw [listedBefore_iff, InByteOrder, ← Text.lt_iff_bytes_lt, ← String.not_lt, ← List.not_lt,
    ← Text.lt_iff_bytes_lt]

-- All of a module comes before what is in modules inside it, unlike by dotted path.
example (metadata : Metadata) :
    let outer := { metadata with moduleName := "checks", name := "zeta" }
    let inner := { metadata with moduleName := "checks.auc", name := "alpha" }
    outer.listedBefore inner = true ∧ inner.listedBefore outer = false ∧
      "checks.auc" ++ "." ++ "alpha" < "checks" ++ "." ++ "zeta" := by
  cbv

theorem listedBefore_trans
    {left middle right : Metadata}
    (first : left.listedBefore middle = true)
    (second : middle.listedBefore right = true) :
    left.listedBefore right = true := by
  rw [listedBefore_iff] at first second ⊢
  rcases first with firstModule | ⟨firstModule, firstName⟩
  · rcases second with secondModule | ⟨secondModule, _⟩
    · exact .inl (String.lt_trans firstModule secondModule)
    · exact .inl (secondModule ▸ firstModule)
  · rcases second with secondModule | ⟨secondModule, secondName⟩
    · exact .inl (firstModule ▸ secondModule)
    · exact .inr ⟨firstModule.trans secondModule, String.le_trans firstName secondName⟩

theorem listedBefore_total (left right : Metadata) :
    left.listedBefore right = true ∨ right.listedBefore left = true := by
  rw [listedBefore_iff, listedBefore_iff]
  by_cases below : left.moduleName < right.moduleName
  · exact .inl (.inl below)
  · by_cases above : right.moduleName < left.moduleName
    · exact .inr (.inl above)
    · have same : left.moduleName = right.moduleName :=
        String.le_antisymm (String.not_lt.mp above) (String.not_lt.mp below)
      rcases String.le_total left.name right.name with nameBelow | nameAbove
      · exact .inl (.inr ⟨same, nameBelow⟩)
      · exact .inr (.inr ⟨same.symm, nameAbove⟩)

/-- Only definitions of one module and one name can be listed in either order. -/
theorem names_eq_of_listedBefore
    {left right : Metadata}
    (forward : left.listedBefore right = true) (backward : right.listedBefore left = true) :
    left.moduleName = right.moduleName ∧ left.name = right.name := by
  rw [listedBefore_iff] at forward backward
  rcases forward with below | ⟨sameModule, below⟩
  · rcases backward with above | ⟨sameModule, _⟩
    · exact absurd (String.lt_trans below above) (String.lt_irrefl _)
    · exact absurd (sameModule ▸ below) (String.lt_irrefl _)
  · rcases backward with above | ⟨_, above⟩
    · exact absurd (sameModule ▸ above) (String.lt_irrefl _)
    · exact ⟨sameModule, String.le_antisymm below above⟩

theorem sortForListing_pairwise (definitions : List Metadata) :
    (sortForListing definitions).Pairwise fun earlier later =>
      earlier.listedBefore later = true := by
  have total : ∀ left right : Metadata,
      (left.listedBefore right || right.listedBefore left) = true := by
    intro left right
    rw [Bool.or_eq_true]
    exact listedBefore_total left right
  rw [sortForListing]
  exact @List.pairwise_mergeSort Metadata listedBefore
    (fun _ _ _ first second => listedBefore_trans first second) total definitions

theorem sortForListing_perm (definitions : List Metadata) :
    (sortForListing definitions).Perm definitions :=
  List.mergeSort_perm definitions listedBefore

/-- The order of definitions that are told apart by module and name is lost in a
listing. -/
theorem sortForListing_eq_of_perm
    {left right : List Metadata} (permutation : left.Perm right)
    (apart : ∀ first ∈ left, ∀ second ∈ left,
      first.moduleName = second.moduleName → first.name = second.name → first = second) :
    sortForListing left = sortForListing right := by
  have leftPermutation := sortForListing_perm left
  have rightPermutation := sortForListing_perm right
  refine List.Perm.eq_of_pairwise ?antisymmetric (sortForListing_pairwise left)
    (sortForListing_pairwise right)
    (leftPermutation.trans (permutation.trans rightPermutation.symm))
  intro first second firstListed secondListed forward backward
  obtain ⟨sameModule, sameName⟩ := names_eq_of_listedBefore forward backward
  have secondInLeft : second ∈ left :=
    permutation.mem_iff.mpr (rightPermutation.mem_iff.mp secondListed)
  exact apart first (leftPermutation.mem_iff.mp firstListed) second secondInLeft
    sameModule sameName

end Assay.Metadata
