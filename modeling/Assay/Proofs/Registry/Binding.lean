import Assay.Proofs.Registry.History

/-!
# Bound definitions

A definition is bound only to an entry that is the same definition as its own
declaration.  Entries never become another definition afterwards, so an instance
and the registry it was bound in agree about its logic for good, whatever is
done with the registry.
-/

namespace Assay

variable {σ τ : Type}

namespace Registry

/-- Under the identity of the metadata there is nothing, or the same
definition. -/
def HasRoomFor (registry : Registry) (candidate : Metadata) : Prop :=
  registry.find? candidate.identity = none ∨
    ∃ existing, registry.find? candidate.identity = some existing ∧
      existing.sameDefinition candidate = true

end Registry

namespace Definition

variable {definition : Definition σ} {registry : Registry} {candidate : Metadata}

theorem bind_eq_of_known
    {existing : Metadata}
    (accepted : definition.declaration.toMetadata = .ok candidate)
    (known : registry.find? candidate.identity = some existing)
    (same : existing.sameDefinition candidate = true) :
    definition.bind registry = (.ok ⟨existing, definition.logic, .empty⟩, registry) := by
  simp [bind, accepted, Registry.insertFirst, known, same]

theorem bind_of_hasRoomFor
    (accepted : definition.declaration.toMetadata = .ok candidate)
    (room : registry.HasRoomFor candidate) :
    ∃ kept, (definition.bind registry).1 = .ok ⟨kept, definition.logic, .empty⟩ ∧
      (definition.bind registry).2.find? candidate.identity = some kept ∧
      kept.sameDefinition candidate = true ∧
      ∀ existing, registry.find? candidate.identity = some existing →
        kept = existing := by
  rcases room with unknown | ⟨existing, known, same⟩
  · have bound := bind_eq_of_unknown accepted unknown
    refine ⟨candidate, by rw [bound], ?_, Metadata.sameDefinition_refl candidate, ?_⟩
    · simp [bound]
    · intro existing known
      rw [unknown] at known
      contradiction
  · have bound := bind_eq_of_known accepted known same
    refine ⟨existing, by rw [bound], ?_, same, ?_⟩
    · rw [bound]
      exact known
    · intro other otherKnown
      exact Option.some.inj (known.symm.trans otherKnown)

/-- A definition without room is refused by the names that it would have had. -/
theorem bind_of_not_hasRoomFor
    (accepted : definition.declaration.toMetadata = .ok candidate)
    (noRoom : ¬registry.HasRoomFor candidate) :
    (definition.bind registry).1 =
      .error (.conflict candidate.identity candidate.moduleName candidate.name) := by
  rw [Registry.HasRoomFor, not_or] at noRoom
  obtain ⟨known, differs⟩ := noRoom
  obtain ⟨existing, found⟩ := Option.ne_none_iff_exists'.mp known
  have different : existing.sameDefinition candidate = false := by
    apply Bool.eq_false_iff.mpr
    intro same
    exact differs ⟨existing, found, same⟩
  simp [bind, accepted, Registry.insertFirst, found, different]

end Definition

namespace RegistryOperation

/-- From an empty registry on, an accepted definition is bound exactly if there
is room for it, and refused by its names otherwise.  The instance has no
bindings, the logic of the definition and the entry of the registry with
whatever version it has.  Whatever is done with the registry later, the entry
stays the definition that both the instance and the declaration describe. -/
theorem performAll_bind_keeps_pairing
    (earlier : List (RegistryOperation σ τ)) (origin : τ)
    (definition : Definition σ) {candidate : Metadata}
    (accepted : definition.declaration.toMetadata = .ok candidate) :
    let reached := (performAll earlier .empty origin).1
    let outcome := definition.bind reached
    ((∃ bound, outcome.1 = .ok bound) ↔ reached.HasRoomFor candidate) ∧
      (¬reached.HasRoomFor candidate →
        outcome.1 =
          .error (.conflict candidate.identity candidate.moduleName candidate.name)) ∧
      ∀ bound, outcome.1 = .ok bound →
        bound.bindings = .empty ∧
          bound.logic = definition.logic ∧
          bound.identity = candidate.identity ∧
          outcome.2.find? bound.identity = some bound.metadata ∧
          (∀ existing, reached.find? bound.identity = some existing →
            bound.metadata = existing) ∧
          ∀ (later : List (RegistryOperation σ τ)) (state : τ), ∃ kept,
            (performAll later outcome.2 state).1.find? bound.identity = some kept ∧
              kept.sameDefinition bound.metadata = true ∧
              kept.sameDefinition candidate = true := by
  intro reached outcome
  have tidy : outcome.2.Tidy := by
    obtain ⟨_, writes, _⟩ := definition.bind_growsAt reached
    exact writes.tidy (tidy_performAll earlier origin)
  by_cases room : reached.HasRoomFor candidate
  · obtain ⟨entry, success, found, same, unchanged⟩ :=
      Definition.bind_of_hasRoomFor accepted room
    have own : entry.identity = candidate.identity :=
      Metadata.identity_of_sameDefinition same
    rw [← own] at found unchanged
    refine ⟨iff_of_true ⟨_, success⟩ room, absurd room, ?_⟩
    intro bound bindSuccess
    obtain rfl : ⟨entry, definition.logic, .empty⟩ = bound :=
      Except.ok.inj (success.symm.trans bindSuccess)
    refine ⟨rfl, rfl, own, found, unchanged, ?_⟩
    intro later state
    obtain ⟨_, writes⟩ := performAll_grows later tidy state
    obtain ⟨kept, keptFound, keptSame, _⟩ := writes.find?_of_known found
    exact ⟨kept, keptFound, keptSame, Metadata.sameDefinition_trans keptSame same⟩
  · have refused : outcome.1 =
        .error (.conflict candidate.identity candidate.moduleName candidate.name) :=
      Definition.bind_of_not_hasRoomFor accepted room
    refine ⟨iff_of_false ?_ room, fun _ => refused, ?_⟩
    · rintro ⟨bound, success⟩
      rw [refused] at success
      contradiction
    · intro bound success
      rw [refused] at success
      contradiction

/-- A definition with a required and an optional parameter. -/
def atMost : Definition Nat :=
  .ofFunction
    { moduleName := "checks"
      name := "at_most"
      displayName := none
      doc := ""
      moduleDoc := ""
      code := "value <= limit"
      tags := ["numeric", "numeric"]
      parameters := [⟨"value", .int, none⟩, ⟨"limit", .int, some .null⟩]
      kind := .classBased }
    fun _ calls => (.ok (.verdict true), calls + 1)

/-- What a store has for `atMost` is taken over with its version before `atMost`
is bound, and another version is offered afterwards. -/
theorem performAll_bind_atMost :
    let stored := atMost.declaration.metadata.withVersion 4
    let adoption : List (RegistryOperation Nat Unit) := [.adopt stored]
    let outcome := atMost.bind (performAll adoption .empty ()).1
    atMost.declaration.toMetadata = .ok atMost.declaration.metadata ∧
      ∃ bound, outcome.1 = .ok bound ∧
        bound.metadata = stored ∧
        ∃ kept,
          (performAll (σ := Nat) [.recordVersion bound.identity 9] outcome.2 ()).1.find?
              bound.identity = some kept ∧
            kept.sameDefinition atMost.declaration.metadata = true := by
  intro stored adoption outcome
  have accepted : atMost.declaration.toMetadata = .ok atMost.declaration.metadata := rfl
  have known : (performAll adoption .empty ()).1.find? stored.identity = some stored :=
    Registry.find?_put_self .empty stored.identity stored
  have same : stored.sameDefinition atMost.declaration.metadata = true :=
    Metadata.sameDefinition_refl stored
  obtain ⟨succeeds, _, instances⟩ :=
    performAll_bind_keeps_pairing adoption () atMost accepted
  obtain ⟨bound, success⟩ := succeeds.mpr (.inr ⟨stored, known, same⟩)
  obtain ⟨_, _, own, _, entry, lasts⟩ := instances bound success
  obtain ⟨kept, found, _, keptSame⟩ := lasts [.recordVersion bound.identity 9] ()
  exact ⟨accepted, bound, success, entry stored (own ▸ known), kept, found, keptSame⟩

end RegistryOperation

end Assay
