import Assay.Instance
import Assay.Proofs.Declaration
import Assay.Proofs.Metadata

/-!
# Instances that a definition leads to

Binding a definition leaves the parameters of its declaration in place, also
when the registry knew the identity before.  A declaration whose parameters
share a name is never accepted, so the parameters of an instance are told apart
by their names.
-/

namespace Assay

namespace Declaration

/-- An accepted declaration has no two parameters of one name. -/
theorem toMetadata_distinct
    {declaration : Declaration} {metadata : Metadata}
    (accepted : declaration.toMetadata = .ok metadata) :
    (metadata.parameters.map (·.name)).Nodup := by
  obtain ⟨wellFormed, rfl⟩ := toMetadata_eq_ok accepted
  exact wellFormed.distinct

end Declaration

theorem Parameter.names_eq_of_sameAll
    {lefts rights : List Parameter}
    (same : Parameter.sameAll lefts rights = true) :
    lefts.map (·.name) = rights.map (·.name) := by
  induction lefts generalizing rights with
  | nil =>
      cases rights with
      | nil => rfl
      | cons right rights => simp [Parameter.sameAll] at same
  | cons left lefts induction =>
      cases rights with
      | nil => simp [Parameter.sameAll] at same
      | cons right rights =>
          simp only [Parameter.sameAll, Parameter.same, Bool.and_eq_true,
            beq_iff_eq] at same
          obtain ⟨⟨⟨sameName, _⟩, _⟩, sameRest⟩ := same
          simp [sameName, induction sameRest]

/-- In lists of the same parameters, every parameter of one has its like in the
other. -/
theorem Parameter.exists_same_of_sameAll
    {lefts rights : List Parameter} (same : Parameter.sameAll lefts rights = true)
    {right : Parameter} (member : right ∈ rights) :
    ∃ left ∈ lefts, left.same right = true := by
  induction lefts generalizing rights with
  | nil =>
      cases rights with
      | nil => contradiction
      | cons first rest => simp [Parameter.sameAll] at same
  | cons left lefts induction =>
      cases rights with
      | nil => contradiction
      | cons first rest =>
          simp only [Parameter.sameAll, Bool.and_eq_true] at same
          rcases List.mem_cons.mp member with rfl | later
          · exact ⟨left, List.mem_cons_self, same.1⟩
          · obtain ⟨like, inside, sameLike⟩ := induction same.2 later
            exact ⟨like, List.mem_cons_of_mem _ inside, sameLike⟩

variable {σ : Type}

/-- Binding succeeds with the entry of the registry only if that entry is the
same definition as the declaration. -/
theorem Definition.bind_eq_ok
    {definition : Definition σ} {registry : Registry} {bound : Instance σ}
    (success : (definition.bind registry).1 = .ok bound) :
    ∃ candidate, definition.declaration.toMetadata = .ok candidate ∧
      bound.metadata.sameDefinition candidate = true ∧
      bound = ⟨(registry.insertFirst candidate).1, definition.logic, .empty⟩ := by
  cases accepted : definition.declaration.toMetadata with
  | error problem => simp [Definition.bind, accepted] at success
  | ok candidate =>
      by_cases agrees :
          (registry.insertFirst candidate).1.sameDefinition candidate = true
      · have shape :
            (⟨(registry.insertFirst candidate).1, definition.logic, .empty⟩ :
              Instance σ) = bound := by
          simpa [Definition.bind, accepted, agrees] using success
        subst bound
        exact ⟨candidate, rfl, agrees, rfl⟩
      · simp [Definition.bind, accepted, agrees] at success

/-- A definition that the registry does not know is bound with the metadata of
its declaration. -/
theorem Definition.bind_eq_of_unknown
    {definition : Definition σ} {registry : Registry} {candidate : Metadata}
    (accepted : definition.declaration.toMetadata = .ok candidate)
    (unknown : registry.find? candidate.identity = none) :
    definition.bind registry =
      (.ok ⟨candidate, definition.logic, .empty⟩,
        registry.put candidate.identity candidate) := by
  simp [Definition.bind, accepted, Registry.insertFirst, unknown]

namespace Instance

/-- The instance was obtained by binding a definition in some registry, after
which anything may have been bound to any name. -/
def Obtained (bound : Instance σ) : Prop :=
  ∃ (definition : Definition σ) (registry : Registry) (fresh : Instance σ),
    (definition.bind registry).1 = .ok fresh ∧
      bound = { fresh with bindings := bound.bindings }

theorem Obtained.bindTo
    {bound : Instance σ} (obtained : bound.Obtained)
    (name : String) (binding : Binding) :
    (bound.bindTo name binding).Obtained := by
  obtain ⟨definition, registry, fresh, success, shape⟩ := obtained
  refine ⟨definition, registry, fresh, success, ?_⟩
  rw [shape]
  rfl

theorem Obtained.rebuild
    {bound : Instance σ} (obtained : bound.Obtained)
    (overrides : List (String × Binding)) :
    (bound.rebuild overrides).Obtained := by
  obtain ⟨definition, registry, fresh, success, shape⟩ := obtained
  refine ⟨definition, registry, fresh, success, ?_⟩
  rw [shape]
  rfl

theorem Obtained.parameters_distinct
    {bound : Instance σ} (obtained : bound.Obtained) :
    (bound.metadata.parameters.map (·.name)).Nodup := by
  obtain ⟨definition, registry, fresh, success, shape⟩ := obtained
  obtain ⟨candidate, accepted, agrees, _⟩ := Definition.bind_eq_ok success
  have sameParameters :
      Parameter.sameAll fresh.metadata.parameters candidate.parameters = true := by
    simp only [Metadata.sameDefinition, Bool.and_eq_true] at agrees
    exact agrees.1.2
  rw [shape]
  change (fresh.metadata.parameters.map (·.name)).Nodup
  rw [Parameter.names_eq_of_sameAll sameParameters]
  exact Declaration.toMetadata_distinct accepted

end Instance

end Assay
