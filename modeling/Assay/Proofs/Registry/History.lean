import Assay.Proofs.Instance
import Assay.Proofs.Registry

/-!
# Histories of a registry

A history is a sequence of operations on one registry, each with a store of its
own choice.  Nothing is assumed about what a store answers: it may answer
anything, under any identity, and may fail or crash at any call.  Every
operation writes for one identity at most, so a history is a sequence of
admitted writes.
-/

namespace Assay

variable {σ τ : Type}

/-- What can be done with a registry; the checks run on states of type `σ`, the
stores on states of type `τ`. -/
inductive RegistryOperation (σ τ : Type) where
  | register (declaration : Declaration)
  | bind (definition : Definition σ)
  | adopt (metadata : Metadata)
  | recordVersion (identity : Identity) (version : Version)
  | load (store : DefinitionStore τ) (identity : Identity)
  | save (store : DefinitionStore τ) (identity : Identity) (payload : Payload)
  | upload (bound : Instance σ) (store : DefinitionStore τ)

namespace RegistryOperation

/-- The registry and the state of the stores after an operation, whether or not
it succeeds. -/
def perform (operation : RegistryOperation σ τ) (registry : Registry) (state : τ) :
    Registry × τ :=
  match operation with
  | .register declaration => ((registry.register declaration).2, state)
  | .bind definition => ((definition.bind registry).2, state)
  | .adopt metadata => ((registry.adopt metadata).2, state)
  | .recordVersion identity version =>
      ((registry.recordVersion identity version).2, state)
  | .load store identity => (registry.load store identity state).2
  | .save store identity payload => (registry.save store identity payload state).2
  | .upload bound store => (bound.upload store registry state).2

/-- The registry and the state of the stores after a history. -/
def performAll :
    List (RegistryOperation σ τ) → Registry → τ → Registry × τ
  | [], registry, state => (registry, state)
  | operation :: rest, registry, state =>
      let (registry, state) := operation.perform registry state
      performAll rest registry state

end RegistryOperation

theorem Registry.register_growsAt (declaration : Declaration) (registry : Registry) :
    registry.GrowsAt declaration.identity (registry.register declaration).2 := by
  unfold Registry.register
  cases accepted : declaration.toMetadata with
  | error problem => exact .unchanged registry _
  | ok candidate =>
      obtain ⟨_, rfl⟩ := Declaration.toMetadata_eq_ok accepted
      exact insertFirst_growsAt declaration.metadata registry

theorem Definition.bind_growsAt (definition : Definition σ) (registry : Registry) :
    registry.GrowsAt definition.declaration.identity (definition.bind registry).2 := by
  have same : (definition.bind registry).2 =
      (registry.register definition.declaration).2 := by
    unfold Definition.bind Registry.register
    cases definition.declaration.toMetadata with
    | error problem => rfl
    | ok candidate =>
        dsimp only
        split <;> rfl
  rw [same]
  exact registry.register_growsAt definition.declaration

theorem Instance.upload_growsAt
    (bound : Instance σ) (store : DefinitionStore τ)
    {registry : Registry} (tidy : registry.Tidy) (state : τ) :
    registry.GrowsAt bound.identity (bound.upload store registry state).2.1 := by
  unfold Instance.upload
  by_cases known : registry.contains bound.identity = true
  · simp only [known, if_true]
    exact Registry.save_growsAt store bound.identity _ tidy state
  · simp only [known]
    have adopted := Registry.adopt_growsAt bound.metadata registry
    obtain ⟨written, writes, _⟩ := id adopted
    exact adopted.trans
      (Registry.save_growsAt store bound.identity _ (writes.tidy tidy) state)

namespace RegistryOperation

theorem perform_growsAt
    (operation : RegistryOperation σ τ)
    {registry : Registry} (tidy : registry.Tidy) (state : τ) :
    ∃ identity, registry.GrowsAt identity (operation.perform registry state).1 := by
  cases operation with
  | register declaration => exact ⟨_, registry.register_growsAt declaration⟩
  | bind definition => exact ⟨_, definition.bind_growsAt registry⟩
  | adopt metadata => exact ⟨_, Registry.adopt_growsAt metadata registry⟩
  | recordVersion identity version =>
      exact ⟨identity, Registry.recordVersion_growsAt identity version tidy⟩
  | load store identity => exact Registry.load_growsAt store identity registry state
  | save store identity payload =>
      exact ⟨identity, Registry.save_growsAt store identity payload tidy state⟩
  | upload bound store => exact ⟨_, bound.upload_growsAt store tidy state⟩

theorem performAll_grows
    (operations : List (RegistryOperation σ τ))
    {registry : Registry} (tidy : registry.Tidy) (state : τ) :
    ∃ written, registry.Grows written (performAll operations registry state).1 := by
  induction operations generalizing registry state with
  | nil => exact ⟨[], .unchanged registry⟩
  | cons operation rest induction =>
      obtain ⟨identity, first, writes, _⟩ := operation.perform_growsAt tidy state
      obtain ⟨later, laterWrites⟩ :=
        induction (writes.tidy tidy) (operation.perform registry state).2
      exact ⟨first ++ later, writes.append laterWrites⟩

/-- Whatever was done with a registry, its entries are in order. -/
theorem tidy_performAll
    (operations : List (RegistryOperation σ τ)) (state : τ) :
    (performAll operations .empty state).1.Tidy := by
  obtain ⟨_, writes⟩ := performAll_grows operations Registry.tidy_empty state
  exact writes.tidy Registry.tidy_empty

/-- From an empty registry on, whatever the operations and the stores do: the
entries are stored under their own identities, an entry never goes and stays
the definition that was first written for it, and all that ever happens to it
is that it receives a version, once.  A single operation changes one entry at
most. -/
theorem performAll_keeps_entries
    (earlier later : List (RegistryOperation σ τ)) (state : τ) :
    let reached := performAll earlier .empty state
    let final := performAll later reached.1 reached.2
    ∃ written,
      Registry.empty.Grows written reached.1 ∧
        reached.1.Tidy ∧
        (∀ identity, written.countP (·.identity == identity) ≤ 2) ∧
        (∀ identity known, reached.1.find? identity = some known →
          ∃ first kept,
            written.find? (·.identity == identity) = some first ∧
              known.sameDefinition first = true ∧
              final.1.find? identity = some kept ∧
              kept.sameDefinition first = true ∧
              ∀ version, known.version = some version →
                kept.version = some version) ∧
        ∀ operation : RegistryOperation σ τ, ∃ changed, ∀ identity,
          identity ≠ changed →
            (operation.perform reached.1 reached.2).1.find? identity =
              reached.1.find? identity := by
  intro reached final
  obtain ⟨written, writes⟩ := performAll_grows earlier Registry.tidy_empty state
  have tidy : reached.1.Tidy := writes.tidy Registry.tidy_empty
  obtain ⟨laterWritten, laterWrites⟩ := performAll_grows later tidy reached.2
  refine ⟨written, writes, tidy, ?_, ?_, ?_⟩
  · intro identity
    exact writes.countP_le_writesLeft identity
  · intro identity known found
    obtain ⟨first, firstFound, knownSame⟩ :=
      writes.first_written (Registry.find?_empty identity) found
    obtain ⟨kept, keptFound, keptSame, keptVersion⟩ :=
      laterWrites.find?_of_known found
    exact ⟨first, kept, firstFound, knownSame, keptFound,
      Metadata.sameDefinition_trans keptSame knownSame, keptVersion⟩
  · intro operation
    obtain ⟨changed, grows⟩ := operation.perform_growsAt tidy reached.2
    exact ⟨changed, fun identity different => grows.find?_of_ne different⟩

end RegistryOperation

end Assay
