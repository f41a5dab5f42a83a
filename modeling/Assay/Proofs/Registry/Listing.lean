import Assay.Proofs.Metadata.Listing
import Assay.Proofs.NameTable
import Assay.Proofs.Registry.History

/-!
# What a registry lists

A registry lists each of its entries once, by module and name.  What it lists comes
from the entries alone: registries that have the same entries list the same, in
whichever order the entries were added, unless two of them share module and name.
-/

namespace Assay

variable {σ τ : Type}

namespace Registry

variable {registry other : Registry} {identity : Identity} {metadata : Metadata}

/-- No two entries share both their module and their name. -/
def ApartByName (registry : Registry) : Prop :=
  ∀ left right leftEntry rightEntry,
    registry.find? left = some leftEntry → registry.find? right = some rightEntry →
      leftEntry.moduleName = rightEntry.moduleName → leftEntry.name = rightEntry.name →
        left = right

/-- The same definitions are known under the same identities. -/
def SameEntries (registry other : Registry) : Prop :=
  ∀ identity, registry.find? identity = other.find? identity

/-! ## Entries and look-up -/

theorem Tidy.mem_entries_iff (tidy : registry.Tidy) :
    (identity, metadata) ∈ registry.entries ↔ registry.find? identity = some metadata :=
  mem_iff_find?_of_distinct tidy.distinct identity metadata

theorem SameEntries.entries_perm
    (same : registry.SameEntries other) (tidy : registry.Tidy) (otherTidy : other.Tidy) :
    registry.entries.Perm other.entries :=
  perm_of_find?_eq tidy.distinct otherTidy.distinct same

/-! ## Listings -/

theorem all_perm (registry : Registry) : registry.all.Perm (registry.entries.map (·.2)) :=
  Metadata.sortForListing_perm _

theorem Tidy.mem_all_iff (tidy : registry.Tidy) :
    metadata ∈ registry.all ↔ registry.find? metadata.identity = some metadata := by
  rw [registry.all_perm.mem_iff, List.mem_map]
  constructor
  · rintro ⟨⟨identity, _⟩, member, rfl⟩
    rw [← tidy.ownIdentity _ member]
    exact tidy.mem_entries_iff.mp member
  · intro found
    exact ⟨(metadata.identity, metadata), tidy.mem_entries_iff.mpr found, rfl⟩

theorem Tidy.identities_nodup (tidy : registry.Tidy) : registry.identities.Nodup := by
  have listed : registry.identities.Perm (registry.entries.map (·.1)) := by
    have own : (registry.entries.map (·.2)).map (·.identity) = registry.entries.map (·.1) := by
      rw [List.map_map]
      exact List.map_congr_left fun entry member => (tidy.ownIdentity entry member).symm
    rw [← own]
    exact registry.all_perm.map _
  exact listed.nodup_iff.mpr tidy.distinct

theorem Tidy.mem_identities_iff (tidy : registry.Tidy) :
    identity ∈ registry.identities ↔ registry.contains identity = true := by
  rw [identities, List.mem_map, contains, Option.isSome_iff_exists]
  constructor
  · rintro ⟨metadata, listed, rfl⟩
    exact ⟨metadata, tidy.mem_all_iff.mp listed⟩
  · rintro ⟨metadata, found⟩
    have own := tidy.identity_of_find? found
    exact ⟨metadata, tidy.mem_all_iff.mpr (own ▸ found), own⟩

theorem all_inByteOrder (registry : Registry) :
    registry.all.Pairwise Metadata.InByteOrder := by
  apply (Metadata.sortForListing_pairwise _).imp
  intro earlier later
  exact (Metadata.listedBefore_iff_inByteOrder earlier later).mp

theorem SameEntries.all_eq
    (same : registry.SameEntries other) (tidy : registry.Tidy) (otherTidy : other.Tidy)
    (apart : registry.ApartByName) :
    registry.all = other.all := by
  refine Metadata.sortForListing_eq_of_perm
    ((same.entries_perm tidy otherTidy).map (·.2)) ?_
  intro first firstMember second secondMember sameModule sameName
  have firstFound := tidy.mem_all_iff.mp (registry.all_perm.mem_iff.mpr firstMember)
  have secondFound := tidy.mem_all_iff.mp (registry.all_perm.mem_iff.mpr secondMember)
  have sameIdentity := apart _ _ _ _ firstFound secondFound sameModule sameName
  rw [sameIdentity, secondFound] at firstFound
  exact (Option.some.inj firstFound).symm

end Registry

/-! ## The order of additions -/

/-- How the first entry of an identity comes into a registry, but for loads. -/
inductive Addition where
  | register (declaration : Declaration)
  | adopt (metadata : Metadata)

namespace Addition

open RegistryOperation

/-- The identity that an addition is for. -/
def identity : Addition → Identity
  | .register declaration => declaration.identity
  | .adopt metadata => metadata.identity

def operation : Addition → RegistryOperation σ τ
  | .register declaration => .register declaration
  | .adopt metadata => .adopt metadata

/-- The same additions, those for one identity in the same order. -/
def Reordered (additions others : List Addition) : Prop :=
  ∀ identity : Identity, additions.filter (·.identity == identity) =
    others.filter (·.identity == identity)

/-- What stands under an identity after an addition comes from what stood there. -/
theorem find?_perform_congr
    (addition : Addition) {left right : Registry} {identity : Identity}
    (same : left.find? identity = right.find? identity) (leftState rightState : τ) :
    ((addition.operation (σ := σ)).perform left leftState).1.find? identity =
      ((addition.operation (σ := σ)).perform right rightState).1.find? identity := by
  cases addition with
  | register declaration =>
      change (left.register declaration).2.find? identity =
        (right.register declaration).2.find? identity
      by_cases own : identity = declaration.identity
      · subst own
        unfold Registry.register
        cases accepted : declaration.toMetadata with
        | error problem => exact same
        | ok candidate =>
            obtain ⟨_, rfl⟩ := Declaration.toMetadata_eq_ok accepted
            have kept : (left.insertFirst declaration.metadata).1 =
                (right.insertFirst declaration.metadata).1 :=
              Registry.insertFirst_fst_congr same
            have leftFound := Registry.find?_insertFirst declaration.metadata left
            have rightFound := Registry.find?_insertFirst declaration.metadata right
            exact leftFound.trans (kept ▸ rightFound.symm)
      · rw [(left.register_growsAt declaration).find?_of_ne own,
          (right.register_growsAt declaration).find?_of_ne own, same]
  | adopt metadata =>
      change (left.adopt metadata).2.find? identity = (right.adopt metadata).2.find? identity
      by_cases own : identity = metadata.identity
      · subst own
        rw [Registry.find?_adopt, Registry.find?_adopt, Registry.adopt_fst_congr same]
      · rw [(Registry.adopt_growsAt metadata left).find?_of_ne own,
          (Registry.adopt_growsAt metadata right).find?_of_ne own, same]

/-- An addition for another identity makes no difference to what stands under one. -/
theorem find?_perform_of_ne
    (addition : Addition) (registry : Registry) {identity : Identity}
    (different : addition.identity ≠ identity) (state : τ) :
    ((addition.operation (σ := σ)).perform registry state).1.find? identity =
      registry.find? identity := by
  cases addition with
  | register declaration =>
      exact (registry.register_growsAt declaration).find?_of_ne (Ne.symm different)
  | adopt metadata =>
      exact (Registry.adopt_growsAt metadata registry).find?_of_ne (Ne.symm different)

/-- Under an identity stands what the additions for it have made of what stood
there. -/
theorem find?_performAll_filter
    (additions : List Addition) {left right : Registry} {identity : Identity}
    (same : left.find? identity = right.find? identity) (leftState rightState : τ) :
    (performAll (σ := σ) (additions.map operation) left leftState).1.find? identity =
      (performAll (σ := σ) ((additions.filter (·.identity == identity)).map operation)
        right rightState).1.find? identity := by
  induction additions generalizing left right leftState rightState with
  | nil => exact same
  | cons addition rest induction =>
      by_cases own : addition.identity = identity
      · rw [List.filter_cons_of_pos (by simpa using own)]
        exact induction (addition.find?_perform_congr same leftState rightState) _ _
      · rw [List.filter_cons_of_neg (by simpa using own)]
        exact induction ((addition.find?_perform_of_ne left own leftState).trans same) _ _

theorem Reordered.sameEntries
    {additions others : List Addition} (reordered : Reordered additions others)
    (registry : Registry) (state otherState : τ) :
    (performAll (σ := σ) (additions.map operation) registry state).1.SameEntries
      (performAll (σ := σ) (others.map operation) registry otherState).1 := by
  intro identity
  rw [find?_performAll_filter additions rfl state state,
    find?_performAll_filter others rfl otherState state, reordered identity]

end Addition

namespace RegistryOperation

/-- Whatever was done with a registry, it lists each of its entries once, by the
bytes of their modules and names, and the identities in the same order.  If no
two entries share module and name, any other history that leads to the same
entries leads to the same lists, such as one that makes the same additions in
another order. -/
theorem performAll_lists_every_entry_once
    (operations : List (RegistryOperation σ τ)) (state : τ) :
    let reached := (performAll operations .empty state).1
    (∀ metadata, metadata ∈ reached.all ↔
        reached.find? metadata.identity = some metadata) ∧
      reached.all.Nodup ∧
      reached.all.Pairwise Metadata.InByteOrder ∧
      reached.identities = reached.all.map (·.identity) ∧
      reached.identities.Nodup ∧
      (∀ identity, identity ∈ reached.identities ↔ reached.contains identity = true) ∧
      reached.size = reached.all.length ∧
      (reached.ApartByName →
        (∀ (others : List (RegistryOperation σ τ)) (otherState : τ),
          let other := (performAll others .empty otherState).1
          reached.SameEntries other →
            reached.all = other.all ∧ reached.identities = other.identities) ∧
        ∀ additions others : List Addition,
          operations = additions.map Addition.operation →
            Addition.Reordered additions others →
              let other :=
                (performAll (σ := σ) (others.map Addition.operation) .empty state).1
              reached.all = other.all ∧ reached.identities = other.identities) := by
  intro reached
  have tidy : reached.Tidy := tidy_performAll operations state
  have independent : reached.ApartByName →
      ∀ (others : List (RegistryOperation σ τ)) (otherState : τ),
        let other := (performAll others .empty otherState).1
        reached.SameEntries other →
          reached.all = other.all ∧ reached.identities = other.identities := by
    intro apart others otherState other same
    have sameList : reached.all = other.all :=
      same.all_eq tidy (tidy_performAll others otherState) apart
    exact ⟨sameList, congrArg (List.map Metadata.identity) sameList⟩
  refine ⟨fun _ => tidy.mem_all_iff, tidy.identities_nodup.of_map, reached.all_inByteOrder,
    rfl, tidy.identities_nodup, fun _ => tidy.mem_identities_iff, ?size, ?order⟩
  case size =>
    rw [reached.all_perm.length_eq, List.length_map]
    rfl
  case order =>
    intro apart
    refine ⟨independent apart, ?_⟩
    rintro additions others rfl reordered
    exact independent apart _ state (reordered.sameEntries .empty state state)

end RegistryOperation

end Assay
