import Assay.Metadata
import Assay.Proofs.Json.Equality

/-!
# Equality of definitions

Being the same definition is an equivalence on metadata, and a version makes no
difference to it.
-/

namespace Assay

namespace Parameter

@[simp] theorem sameDefault_refl (default : Option Json.Value) :
    sameDefault default default = true := by
  cases default with
  | none => rfl
  | some value => exact Json.Value.same_refl value

theorem sameDefault_symm (left right : Option Json.Value) :
    sameDefault left right = sameDefault right left := by
  cases left with
  | none => cases right <;> rfl
  | some leftValue =>
      cases right with
      | none => rfl
      | some rightValue => exact Json.Value.same_symm leftValue rightValue

theorem sameDefault_trans
    {left middle right : Option Json.Value}
    (first : sameDefault left middle = true)
    (second : sameDefault middle right = true) :
    sameDefault left right = true := by
  cases left with
  | none =>
      cases middle with
      | none => exact second
      | some middleValue => simp [sameDefault] at first
  | some leftValue =>
      cases middle with
      | none => simp [sameDefault] at first
      | some middleValue =>
          cases right with
          | none => simp [sameDefault] at second
          | some rightValue =>
              exact Json.Value.same_trans leftValue middleValue rightValue
                first second

@[simp] theorem same_refl (parameter : Parameter) : parameter.same parameter = true := by
  simp [same]

theorem same_symm (left right : Parameter) : left.same right = right.same left := by
  simp only [same, BEq.comm (a := left.name), BEq.comm (a := left.type),
    sameDefault_symm left.default]

theorem same_trans
    {left middle right : Parameter}
    (first : left.same middle = true) (second : middle.same right = true) :
    left.same right = true := by
  simp only [same, Bool.and_eq_true, beq_iff_eq] at first second ⊢
  obtain ⟨⟨firstName, firstType⟩, firstDefault⟩ := first
  obtain ⟨⟨secondName, secondType⟩, secondDefault⟩ := second
  exact ⟨⟨firstName.trans secondName, firstType.trans secondType⟩,
    sameDefault_trans firstDefault secondDefault⟩

@[simp] theorem sameAll_refl (parameters : List Parameter) :
    sameAll parameters parameters = true := by
  induction parameters with
  | nil => rfl
  | cons parameter rest induction =>
      simp [sameAll, induction]

theorem sameAll_symm (lefts rights : List Parameter) :
    sameAll lefts rights = sameAll rights lefts := by
  induction lefts generalizing rights with
  | nil => cases rights <;> rfl
  | cons left lefts induction =>
      cases rights with
      | nil => rfl
      | cons right rights =>
          simp only [sameAll, same_symm left right, induction rights]

theorem sameAll_trans
    {lefts middles rights : List Parameter}
    (first : sameAll lefts middles = true)
    (second : sameAll middles rights = true) :
    sameAll lefts rights = true := by
  induction lefts generalizing middles rights with
  | nil =>
      cases middles with
      | nil => exact second
      | cons middle middles => simp [sameAll] at first
  | cons left lefts induction =>
      cases middles with
      | nil => simp [sameAll] at first
      | cons middle middles =>
          cases rights with
          | nil => simp [sameAll] at second
          | cons right rights =>
              simp only [sameAll, Bool.and_eq_true] at first second ⊢
              exact ⟨same_trans first.1 second.1, induction first.2 second.2⟩

end Parameter

namespace Metadata

theorem sameDefinition_iff (left right : Metadata) :
    left.sameDefinition right = true ↔
      left.identity = right.identity ∧ left.name = right.name ∧
        left.displayName = right.displayName ∧
        left.moduleName = right.moduleName ∧ left.doc = right.doc ∧
        left.moduleDoc = right.moduleDoc ∧ left.code = right.code ∧
        left.tags = right.tags ∧
        Parameter.sameAll left.parameters right.parameters = true ∧
        left.kind = right.kind := by
  simp only [sameDefinition, Bool.and_eq_true, beq_iff_eq, and_assoc]

theorem identity_of_sameDefinition
    {left right : Metadata} (same : left.sameDefinition right = true) :
    left.identity = right.identity :=
  ((sameDefinition_iff left right).mp same).1

theorem sameAll_of_sameDefinition
    {left right : Metadata} (same : left.sameDefinition right = true) :
    Parameter.sameAll left.parameters right.parameters = true := by
  obtain ⟨-, -, -, -, -, -, -, -, sameParameters, -⟩ :=
    (sameDefinition_iff left right).mp same
  exact sameParameters

@[simp] theorem version_withVersion (metadata : Metadata) (version : Version) :
    (metadata.withVersion version).version = some version := rfl

@[simp] theorem sameDefinition_refl (metadata : Metadata) :
    metadata.sameDefinition metadata = true := by
  simp [sameDefinition]

theorem sameDefinition_symm
    {left right : Metadata} (same : left.sameDefinition right = true) :
    right.sameDefinition left = true := by
  rw [sameDefinition_iff] at same ⊢
  obtain ⟨identity, name, displayName, moduleName, doc, moduleDoc, code, tags,
    parameters, kind⟩ := same
  rw [Parameter.sameAll_symm] at parameters
  exact ⟨identity.symm, name.symm, displayName.symm, moduleName.symm, doc.symm,
    moduleDoc.symm, code.symm, tags.symm, parameters, kind.symm⟩

theorem sameDefinition_trans
    {left middle right : Metadata}
    (first : left.sameDefinition middle = true)
    (second : middle.sameDefinition right = true) :
    left.sameDefinition right = true := by
  rw [sameDefinition_iff] at first second ⊢
  obtain ⟨identity, name, displayName, moduleName, doc, moduleDoc, code, tags,
    parameters, kind⟩ := first
  obtain ⟨identity', name', displayName', moduleName', doc', moduleDoc', code',
    tags', parameters', kind'⟩ := second
  exact ⟨identity.trans identity', name.trans name',
    displayName.trans displayName', moduleName.trans moduleName', doc.trans doc',
    moduleDoc.trans moduleDoc', code.trans code', tags.trans tags',
    Parameter.sameAll_trans parameters parameters', kind.trans kind'⟩

@[simp] theorem sameDefinition_withVersion (metadata : Metadata) (version : Version) :
    metadata.sameDefinition (metadata.withVersion version) = true :=
  sameDefinition_refl metadata

end Metadata

end Assay
