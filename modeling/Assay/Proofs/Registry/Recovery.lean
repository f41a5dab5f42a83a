import Assay.Proofs.Registry.Binding
import Assay.Proofs.Registry.Loading

/-!
# Binding and recovering a stored version

What a store has for a definition can be loaded before the definition is bound
or afterwards.  Loaded first, it is taken over as it is and the binding finds it;
loaded afterwards, it replaces the entry that the binding wrote.  The registry is
the same in the end.  The instance is not: bound first, it keeps the metadata of
its declaration, which has no version.  Uploads go by the entry, so this never
leads to another save.
-/

namespace Assay

variable {σ τ υ : Type}

@[simp] theorem Memory.load_put
    (memory : Memory) (identity : Identity) (metadata : Metadata) (payload : Payload) :
    store.load identity (memory.put identity.text metadata payload) =
      (.ok (some metadata), memory.put identity.text metadata payload) := by
  simp [store, load, put]

/-- Whatever is done with a registry, it never loses a version. -/
theorem RegistryOperation.version?_performAll
    (operations : List (RegistryOperation σ τ)) {registry : Registry}
    (tidy : registry.Tidy) (state : τ) {identity : Identity} {version : Version}
    (known : registry.version? identity = some version) :
    (performAll operations registry state).1.version? identity = some version := by
  obtain ⟨_, writes⟩ := performAll_grows operations tidy state
  obtain ⟨metadata, found, versioned⟩ := Registry.find?_of_version? known
  obtain ⟨kept, keptFound, -, keptVersion⟩ := writes.find?_of_known found
  rw [Registry.version?_of_find? keptFound]
  exact keptVersion version versioned

namespace Definition

variable {definition : Definition σ} {registry : Registry}
  {store : DefinitionStore υ} {state after : υ} {candidate stored : Metadata}
  {version : Version}

/-! ## Either order -/

/-- The binding finds what was loaded. -/
theorem bind_after_load
    (accepted : definition.declaration.toMetadata = .ok candidate)
    (unknown : registry.find? candidate.identity = none)
    (answered : store.load candidate.identity state = (.ok (some stored), after))
    (same : stored.sameDefinition candidate = true) :
    let loaded := registry.put candidate.identity stored
    registry.load store candidate.identity state = (.ok (some stored), loaded, after) ∧
      definition.bind loaded = (.ok ⟨stored, definition.logic, .empty⟩, loaded) := by
  intro loaded
  have own : stored.identity = candidate.identity :=
    Metadata.identity_of_sameDefinition same
  have unversioned : registry.version? candidate.identity = none := by
    rw [Registry.version?, unknown, Option.bind_none]
  have adopted : registry.adopt stored = (stored, loaded) := by
    rw [Registry.adopt_of_unknown (own ▸ unknown), own]
  refine ⟨?_, bind_eq_of_known accepted (by simp [loaded]) same⟩
  rw [Registry.load_of_adopted unversioned answered, adopted]

/-- What is loaded replaces what the binding wrote. -/
theorem load_after_bind
    (accepted : definition.declaration.toMetadata = .ok candidate)
    (unknown : registry.find? candidate.identity = none)
    (answered : store.load candidate.identity state = (.ok (some stored), after))
    (versioned : stored.version = some version)
    (same : stored.sameDefinition candidate = true) :
    let written := registry.put candidate.identity candidate
    definition.bind registry = (.ok ⟨candidate, definition.logic, .empty⟩, written) ∧
      written.load store candidate.identity state =
        (.ok (some stored), registry.put candidate.identity stored, after) := by
  intro written
  have own : stored.identity = candidate.identity :=
    Metadata.identity_of_sameDefinition same
  have fresh : candidate.version = none := Declaration.toMetadata_unversioned accepted
  have found : written.find? candidate.identity = some candidate := by simp [written]
  have unversioned : written.version? candidate.identity = none :=
    (Registry.version?_of_find? found).trans fresh
  have adopted : written.adopt stored =
      (stored, registry.put candidate.identity stored) := by
    rw [Registry.adopt_of_unversioned (own ▸ found) fresh versioned
      (Metadata.sameDefinition_symm same), own, Registry.put_put]
  refine ⟨bind_eq_of_unknown accepted unknown, ?_⟩
  rw [Registry.load_of_adopted unversioned answered, adopted]

end Definition

namespace RegistryOperation

/-- In a registry that was reached from an empty one and does not know a
definition, the definition is bound, and a version that a store has of it is
loaded, before or after that.  Either way both succeed, in one and the same
registry: its entry is what the store has, and no other entry has changed.  The
instance that was bound first has no version.  Whatever is done with the
registry later, an upload of either instance answers the version without a call
of any store. -/
theorem load_and_bind_commute
    (earlier : List (RegistryOperation σ τ)) (origin : τ)
    (definition : Definition σ) {candidate : Metadata}
    (accepted : definition.declaration.toMetadata = .ok candidate)
    (unknown : (performAll earlier .empty origin).1.find? candidate.identity = none)
    (store : DefinitionStore υ) {state after : υ} {stored : Metadata} {version : Version}
    (answered : store.load candidate.identity state = (.ok (some stored), after))
    (versioned : stored.version = some version)
    (same : stored.sameDefinition candidate = true) :
    let reached := (performAll earlier .empty origin).1
    ∃ loaded written final,
      (reached.load store candidate.identity state = (.ok (some stored), loaded, after) ∧
          definition.bind loaded = (.ok ⟨stored, definition.logic, .empty⟩, final)) ∧
        (definition.bind reached = (.ok ⟨candidate, definition.logic, .empty⟩, written) ∧
          written.load store candidate.identity state =
            (.ok (some stored), final, after)) ∧
        candidate.version = none ∧
        final.find? candidate.identity = some stored ∧
        (∀ other, other ≠ candidate.identity → final.find? other = reached.find? other) ∧
        ∀ (bound : Instance σ), bound.metadata = stored ∨ bound.metadata = candidate →
          ∀ (later : List (RegistryOperation σ τ)) (origin : τ),
            let last := (performAll later final origin).1
            ∀ (other : DefinitionStore υ) (state : υ),
              bound.upload other.transcribed last (state, []) =
                (.ok version, last, (state, [])) := by
  intro reached
  have own : stored.identity = candidate.identity :=
    Metadata.identity_of_sameDefinition same
  let final := reached.put candidate.identity stored
  have found : final.find? candidate.identity = some stored := by simp [final]
  have tidy : final.Tidy := by
    have written := (tidy_performAll earlier origin).put stored
    rw [own] at written
    exact written
  refine ⟨final, _, final, Definition.bind_after_load accepted unknown answered same,
    Definition.load_after_bind accepted unknown answered versioned same,
    Declaration.toMetadata_unversioned accepted, found, ?_, ?_⟩
  · intro other different
    simp [final, Ne.symm different]
  · intro bound carried later origin last other state
    have identified : bound.identity = candidate.identity := by
      rcases carried with carried | carried
      · rw [Instance.identity, carried, own]
      · rw [Instance.identity, carried]
    have known : last.version? bound.identity = some version := by
      rw [identified]
      exact version?_performAll later tidy origin
        ((Registry.version?_of_find? found).trans versioned)
    exact Instance.upload_of_version? known other.transcribed (state, [])

/-- A store in memory has the fourth version of `atMost`, which is loaded after
`atMost` is bound.  An upload answers it, and the store has not been called. -/
theorem load_after_bind_atMost :
    let candidate := atMost.declaration.metadata
    let stored := candidate.withVersion 4
    let memory := Memory.empty.put candidate.identity.text stored .empty
    atMost.declaration.toMetadata = .ok candidate ∧
      Memory.store.load candidate.identity memory = (.ok (some stored), memory) ∧
      ∃ bound written final,
        atMost.bind .empty = (.ok bound, written) ∧
          bound.metadata.version = none ∧
          written.load Memory.store candidate.identity memory =
            (.ok (some stored), final, memory) ∧
          final.find? candidate.identity = some stored ∧
          bound.upload Memory.store.transcribed final (memory, []) =
            (.ok 4, final, (memory, [])) := by
  intro candidate stored memory
  have accepted : atMost.declaration.toMetadata = .ok candidate := rfl
  have answered : Memory.store.load candidate.identity memory = (.ok (some stored), memory) :=
    Memory.load_put .empty candidate.identity stored .empty
  have same : stored.sameDefinition candidate = true := Metadata.sameDefinition_refl stored
  obtain ⟨_, written, final, -, ⟨binds, loads⟩, unversioned, found, -, uploads⟩ :=
    load_and_bind_commute (σ := Nat) (τ := Unit) [] () atMost accepted
      (Registry.find?_empty _) Memory.store answered rfl same
  have uploaded := uploads ⟨candidate, atMost.logic, .empty⟩ (.inr rfl) [] ()
    Memory.store memory
  exact ⟨accepted, answered, _, written, final, binds, unversioned, loads, found, uploaded⟩

end RegistryOperation

end Assay
