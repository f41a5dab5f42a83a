import Assay.Proofs.Json.Members
import Assay.Proofs.Registry.Binding

/-!
# Conflicts in either order

Two definitions of one identity are in conflict unless they are the same definition.
Being the same is an equivalence, from numbers up to metadata, so it makes no
difference which of the two is bound first: the one that comes second is refused.
-/

namespace Assay

variable {σ : Type}

namespace ArgumentValue

@[simp] theorem isSame_refl (value : ArgumentValue) : value.isSame value = true := by
  cases value with
  | json content => exact Json.Value.same_refl content
  | collaborator shared => exact beq_self_eq_true shared.handle

theorem isSame_symm (left right : ArgumentValue) : left.isSame right = right.isSame left := by
  cases left with
  | json leftContent =>
      cases right with
      | json rightContent => exact Json.Value.same_symm leftContent rightContent
      | collaborator rightShared => rfl
  | collaborator leftShared =>
      cases right with
      | json rightContent => rfl
      | collaborator rightShared => exact BEq.comm

theorem isSame_trans
    {left middle right : ArgumentValue}
    (first : left.isSame middle = true) (second : middle.isSame right = true) :
    left.isSame right = true := by
  cases left with
  | json leftContent =>
      cases middle with
      | collaborator middleShared => contradiction
      | json middleContent =>
          cases right with
          | collaborator rightShared => contradiction
          | json rightContent =>
              exact Json.Value.same_trans leftContent middleContent rightContent first second
  | collaborator leftShared =>
      cases middle with
      | json middleContent => contradiction
      | collaborator middleShared =>
          cases right with
          | json rightContent => contradiction
          | collaborator rightShared =>
              simp only [isSame, beq_iff_eq] at first second ⊢
              exact first.trans second

/-- JSON is compared by its content and a collaborator by which one it is. -/
theorem isSame_iff (left right : ArgumentValue) :
    left.isSame right = true ↔
      (∃ leftContent rightContent, left = .json leftContent ∧ right = .json rightContent ∧
          leftContent.same rightContent = true) ∨
        ∃ leftShared rightShared, left = .collaborator leftShared ∧
          right = .collaborator rightShared ∧ leftShared.handle = rightShared.handle := by
  cases left <;> cases right <;> simp [isSame]

end ArgumentValue

namespace Definition

/-- Binding the definition ends in a conflict. -/
def Conflicts (definition : Definition σ) (registry : Registry) : Prop :=
  ∃ identity moduleName name,
    (definition.bind registry).1 = .error (.conflict identity moduleName name)

variable {first second : Definition σ} {registry : Registry} {candidate other : Metadata}

/-- Bound after another definition of its identity, a definition is in conflict if the
other one is not the same. -/
theorem conflicts_after_bind_iff
    (accepted : first.declaration.toMetadata = .ok candidate)
    (otherAccepted : second.declaration.toMetadata = .ok other)
    (sameIdentity : candidate.identity = other.identity)
    (unknown : registry.find? candidate.identity = none) :
    second.Conflicts (first.bind registry).2 ↔ candidate.sameDefinition other = false := by
  have found : (first.bind registry).2.find? other.identity = some candidate := by
    simp [bind_eq_of_unknown accepted unknown, ← sameIdentity]
  cases same : candidate.sameDefinition other with
  | true =>
      have bound := bind_eq_of_known otherAccepted found same
      simp [Conflicts, bound]
  | false =>
      have noRoom : ¬(first.bind registry).2.HasRoomFor other := by
        rintro (absent | ⟨existing, known, alike⟩)
        · rw [found] at absent
          contradiction
        · rw [found] at known
          obtain rfl := Option.some.inj known
          rw [same] at alike
          contradiction
      exact iff_of_true ⟨_, _, _, bind_of_not_hasRoomFor otherAccepted noRoom⟩ rfl

end Definition

namespace Registry

/-- Whether two definitions are in conflict does not depend on their order.  Equality of
JSON values tells integers from binary numbers, takes finite binary numbers as numbers and
objects as what they have for each name; with it, being the very same value and being the
same definition are equivalences, and versions make no difference to the latter.  Of two
accepted definitions of one identity that a registry does not know, either is bound when it
comes first, and either is in conflict when it comes second, just when they differ. -/
theorem conflicts_in_either_order :
    (Equivalence fun left right : Json.Value => left.same right = true) ∧
      (∀ value fits number finite,
        (Json.Value.number (.integer value fits)).same
          (.number (.binary number finite)) = false) ∧
      (∀ left leftFinite right rightFinite,
        (Json.Value.number (.binary left leftFinite)).same
            (.number (.binary right rightFinite)) = true ↔
          left = right ∨ left.isZero = true ∧ right.isZero = true) ∧
      (∀ left right : List (String × Json.Value),
        (Json.Value.ofMembers left).same (.ofMembers right) = true ↔
          ∀ name, Option.Rel (fun first second => first.same second = true)
            (NameTable.lastOf? name left) (NameTable.lastOf? name right)) ∧
      (∀ left right : List (String × Json.Value),
        left.Perm right → (left.map (·.1)).Nodup →
          Json.Value.ofMembers left = .ofMembers right) ∧
      (Equivalence fun left right : ArgumentValue => left.isSame right = true) ∧
      (∀ left right : ArgumentValue, left.isSame right = true ↔
        (∃ leftContent rightContent, left = .json leftContent ∧
            right = .json rightContent ∧ leftContent.same rightContent = true) ∨
          ∃ leftShared rightShared, left = .collaborator leftShared ∧
            right = .collaborator rightShared ∧ leftShared.handle = rightShared.handle) ∧
      (Equivalence fun left right : Metadata => left.sameDefinition right = true) ∧
      (∀ (left right : Metadata) version,
        (left.withVersion version).sameDefinition right = left.sameDefinition right ∧
          left.sameDefinition (right.withVersion version) = left.sameDefinition right) ∧
      ∀ (first second : Definition σ) candidate other (registry : Registry),
        first.declaration.toMetadata = .ok candidate →
          second.declaration.toMetadata = .ok other →
            candidate.identity = other.identity →
              registry.find? candidate.identity = none →
                (∃ bound, (first.bind registry).1 = .ok bound) ∧
                  (∃ bound, (second.bind registry).1 = .ok bound) ∧
                  (second.Conflicts (first.bind registry).2 ↔
                    first.Conflicts (second.bind registry).2) ∧
                  (second.Conflicts (first.bind registry).2 ↔
                    candidate.sameDefinition other = false) := by
  refine ⟨?values, fun _ _ _ _ => rfl, fun _ leftFinite _ rightFinite => ?binaries,
    Json.Value.same_ofMembers_iff, fun _ _ => Json.Value.ofMembers_eq_of_perm, ?arguments,
    ArgumentValue.isSame_iff, ?definitions, fun _ _ _ => ⟨rfl, rfl⟩, ?conflicts⟩
  case values =>
    refine ⟨Json.Value.same_refl, ?_, fun {left middle right} => ?_⟩
    · intro left right same
      rwa [Json.Value.same_symm]
    · exact Json.Value.same_trans left middle right
  case binaries => exact Json.Number.same_binary_iff leftFinite rightFinite
  case arguments =>
    refine ⟨ArgumentValue.isSame_refl, ?_, ArgumentValue.isSame_trans⟩
    intro left right same
    rwa [ArgumentValue.isSame_symm]
  case definitions =>
    exact ⟨Metadata.sameDefinition_refl, Metadata.sameDefinition_symm,
      Metadata.sameDefinition_trans⟩
  case conflicts =>
    intro first second candidate other registry accepted otherAccepted sameIdentity unknown
    have otherUnknown : registry.find? other.identity = none := sameIdentity ▸ unknown
    have forward :=
      Definition.conflicts_after_bind_iff accepted otherAccepted sameIdentity unknown
    have backward :=
      Definition.conflicts_after_bind_iff otherAccepted accepted sameIdentity.symm otherUnknown
    have symmetric : candidate.sameDefinition other = other.sameDefinition candidate :=
      Bool.eq_iff_iff.mpr ⟨Metadata.sameDefinition_symm, Metadata.sameDefinition_symm⟩
    have firstBound := Definition.bind_eq_of_unknown accepted unknown
    have secondBound := Definition.bind_eq_of_unknown otherAccepted otherUnknown
    refine ⟨⟨_, congrArg Prod.fst firstBound⟩, ⟨_, congrArg Prod.fst secondBound⟩, ?_,
      forward⟩
    rw [forward, backward, symmetric]

end Registry

end Assay
