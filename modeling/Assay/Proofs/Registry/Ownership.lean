import Assay.Proofs.Registry.Binding
import Assay.Proofs.Registry.Upload

/-!
# Whose definition an upload persists

An instance can be uploaded by way of another registry than the one it was bound
in.  The metadata that is saved comes from the registry, the payload from the
instance, and an upload does not compare the two, as binding does.  They belong
together exactly if the registry has room for the instance: nothing under its
identity, or the same definition.
-/

namespace Assay

variable {σ τ : Type}

namespace Instance

variable {bound : Instance σ} {store : DefinitionStore τ} {registry next : Registry}
  {state later : τ} {version : Version} {transcript : List StoreExchange}

theorem sameDefinition_entryIn_iff (bound : Instance σ) (registry : Registry) :
    (bound.entryIn registry).sameDefinition bound.metadata = true ↔
      registry.HasRoomFor bound.metadata := by
  have own : bound.identity = bound.metadata.identity := rfl
  unfold entryIn Registry.HasRoomFor
  rw [own]
  cases found : registry.find? bound.metadata.identity with
  | none => simp
  | some known => simp

/-- The code of two metadata of one definition is the same. -/
theorem payload_of_sameDefinition
    {entry : Metadata} (same : entry.sameDefinition bound.metadata = true) :
    bound.payload = entry.code.toByteArray := by
  obtain ⟨_, _, _, _, _, _, code, _⟩ := (Metadata.sameDefinition_iff _ _).mp same
  rw [payload, code]

/-- An upload that persists the definition of the instance itself: the entry of
its identity is that definition, and whatever was saved came with its own
code. -/
structure PersistsOwn (bound : Instance σ) (next : Registry)
    (transcript : List StoreExchange) : Prop where
  entry : ∃ kept, next.find? bound.identity = some kept ∧
    kept.sameDefinition bound.metadata = true
  saves : ∀ metadata payload answer, .save metadata payload answer ∈ transcript →
    payload = metadata.code.toByteArray

namespace Uploads

variable {saves : List SavedVersion}

/-- The entry is the definition that the upload went by, with its version. -/
theorem find?_self
    (uploads : bound.Uploads store registry state version saves next later) :
    ∃ kept, next.find? bound.identity = some kept ∧
      kept.sameDefinition (bound.entryIn registry) = true ∧
      kept.version = some version := by
  cases uploads with
  | known versioned =>
      exact ⟨_, bound.find?_enrolledIn registry, Metadata.sameDefinition_refl _, versioned⟩
  | saved unversioned answered =>
      refine ⟨_, Registry.find?_put_self _ bound.identity _, ?_, rfl⟩
      exact Metadata.sameDefinition_symm (Metadata.sameDefinition_withVersion _ version)

end Uploads

/-- The calls of a store that an upload makes: the entry is saved with the code of
the instance if it has no version. -/
theorem transcript_of_upload
    (uploaded : bound.upload store.transcribed registry (state, []) =
      (.ok version, next, (later, transcript))) :
    transcript =
      if (bound.entryIn registry).version.isSome then []
      else [.save (bound.entryIn registry) bound.payload (.ok version)] := by
  obtain ⟨saves, uploads⟩ := upload_eq_ok uploaded
  cases uploads with
  | known versioned => rw [versioned, Option.isSome_some, if_pos rfl]
  | saved unversioned answered =>
      rw [unversioned, Option.isSome_none, if_neg Bool.false_ne_true]
      simp only [DefinitionStore.transcribed, Prod.mk.injEq] at answered
      obtain ⟨answer, -, made⟩ := answered
      rw [answer, List.nil_append] at made
      exact made.symm

/-- An upload goes by the entry of the registry if there is one.  It persists the
definition of the instance exactly if the registry has room for it; otherwise
the entry stays another definition, and if that has no version it is saved with
the code of the instance. -/
theorem upload_persists_own_iff
    (bound : Instance σ) (registry : Registry) (store : DefinitionStore τ) (state : τ)
    (uploaded : bound.upload store.transcribed registry (state, []) =
      (.ok version, next, (later, transcript))) :
    (bound.PersistsOwn next transcript ↔ registry.HasRoomFor bound.metadata) ∧
      (∃ kept, next.find? bound.identity = some kept ∧
        kept.sameDefinition (bound.entryIn registry) = true ∧
        kept.version = some version) ∧
      transcript =
        if (bound.entryIn registry).version.isSome then []
        else [.save (bound.entryIn registry) bound.payload (.ok version)] := by
  obtain ⟨saves, uploads⟩ := upload_eq_ok uploaded
  obtain ⟨kept, found, same, versioned⟩ := uploads.find?_self
  have calls := transcript_of_upload uploaded
  refine ⟨?_, ⟨kept, found, same, versioned⟩, calls⟩
  rw [← sameDefinition_entryIn_iff]
  constructor
  · intro persists
    obtain ⟨entry, entryFound, entrySame⟩ := persists.entry
    obtain rfl : kept = entry := Option.some.inj (found.symm.trans entryFound)
    exact Metadata.sameDefinition_trans (Metadata.sameDefinition_symm same) entrySame
  · intro own
    refine ⟨⟨kept, found, Metadata.sameDefinition_trans same own⟩, ?_⟩
    intro metadata payload answer saved
    rw [calls] at saved
    split at saved
    · contradiction
    · cases List.mem_singleton.mp saved
      exact payload_of_sameDefinition own

/-! ## An instance in other registries -/

/-- A store that answers with a version is given the entry of the registry and the
code of the instance. -/
private theorem upload_scripted
    {known : Metadata} (found : registry.find? bound.identity = some known)
    (unversioned : known.version = none) (version : Version) :
    bound.upload DefinitionStore.scripted.transcribed registry ([.ok version], []) =
      (.ok version, registry.put bound.identity (known.withVersion version),
        ([], [.save known bound.payload (.ok version)])) := by
  have entry : bound.entryIn registry = known := by rw [entryIn, found, Option.getD_some]
  rw [upload_eq, entry, enrolledIn_of_find? found, unversioned]
  rfl

open RegistryOperation (atMost performAll)

/-- An instance bound in one registry is uploaded by way of another one that has
taken over the same definition. -/
theorem upload_persists_own_atMost :
    let declared := atMost.declaration.metadata
    let reached := (performAll (σ := Nat) (τ := Unit) [.adopt declared] .empty ()).1
    ∃ bound next,
      (atMost.bind .empty).1 = .ok bound ∧
        bound.upload DefinitionStore.scripted.transcribed reached ([.ok 7], []) =
          (.ok 7, next, ([], [.save declared bound.payload (.ok 7)])) ∧
        bound.PersistsOwn next [.save declared bound.payload (.ok 7)] := by
  intro declared reached
  let bound : Instance Nat := ⟨declared, atMost.logic, .empty⟩
  have known : reached.find? bound.identity = some declared :=
    Registry.find?_put_self .empty declared.identity declared
  have uploaded := upload_scripted known rfl 7
  obtain ⟨own, _⟩ := upload_persists_own_iff bound reached _ _ uploaded
  have room : reached.HasRoomFor declared :=
    .inr ⟨declared, known, Metadata.sameDefinition_refl declared⟩
  exact ⟨bound, _, by rw [Definition.bind_eq_of_unknown rfl (Registry.find?_empty _)],
    uploaded, own.mpr room⟩

/-- What another registry may have under the identity of `atMost`. -/
def strictlyBelow : Metadata :=
  { atMost.declaration.metadata with code := "value < limit" }

/-- The registry has another definition under the identity of the instance.  That
definition is saved, with the code of the instance. -/
theorem upload_does_not_persist_own :
    let reached :=
      (performAll (σ := Nat) (τ := Unit) [.adopt strictlyBelow] .empty ()).1
    ∃ bound next,
      (atMost.bind .empty).1 = .ok bound ∧
        bound.upload DefinitionStore.scripted.transcribed reached ([.ok 1], []) =
          (.ok 1, next, ([], [.save strictlyBelow bound.payload (.ok 1)])) ∧
        ¬bound.PersistsOwn next [.save strictlyBelow bound.payload (.ok 1)] := by
  intro reached
  let bound : Instance Nat := ⟨atMost.declaration.metadata, atMost.logic, .empty⟩
  have known : reached.find? bound.identity = some strictlyBelow :=
    Registry.find?_put_self .empty strictlyBelow.identity strictlyBelow
  refine ⟨bound, _, by rw [Definition.bind_eq_of_unknown rfl (Registry.find?_empty _)],
    upload_scripted known rfl 1, ?_⟩
  intro persists
  have foreignCode : bound.payload ≠ strictlyBelow.code.toByteArray := by decide
  exact foreignCode (persists.saves _ _ _ List.mem_cons_self)

end Instance

end Assay
