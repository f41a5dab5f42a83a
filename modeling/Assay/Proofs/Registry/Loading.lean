import Assay.Proofs.Metadata.RoundTrip
import Assay.Proofs.Registry.Upload
import Assay.Store.Memory

/-!
# Whose metadata a load answers

A registry takes over what a store answers under the identity that the answer
itself names, and answers the entry of that identity.  Nothing compares it with
the identity that was asked for, so a load answers for that one exactly if the
registry knows its version or the store names no other.
-/

namespace Assay

variable {σ τ υ : Type}

/-- Whatever metadata the store has for an identity names that identity. -/
def DefinitionStore.AnswersFor (store : DefinitionStore τ) (identity : Identity)
    (state : τ) : Prop :=
  ∀ stored later, store.load identity state = (.ok (some stored), later) →
    stored.identity = identity

namespace Registry

variable {registry : Registry} {store : DefinitionStore τ} {identity : Identity}
  {state later : τ} {stored : Metadata}

/-- A load that answers for an identity: metadata that it answers is the entry of
that identity, and all other entries are as they were. -/
structure LoadsFor (before : Registry) (identity : Identity)
    (answer : Except CallFailure (Option Metadata)) (after : Registry) : Prop where
  own : ∀ metadata, answer = .ok (some metadata) →
    metadata.identity = identity ∧ after.find? identity = some metadata
  others : ∀ other, other ≠ identity → after.find? other = before.find? other

/-! ## Taking over an answer -/

/-- Metadata is taken over under the identity that it names. -/
theorem loadsFor_adopt (tidy : registry.Tidy) (metadata : Metadata) :
    registry.LoadsFor metadata.identity (.ok (some (registry.adopt metadata).1))
      (registry.adopt metadata).2 where
  own := by
    rintro _ ⟨⟩
    have found := find?_adopt metadata registry
    obtain ⟨_, writes, _⟩ := adopt_growsAt metadata registry
    exact ⟨(writes.tidy tidy).identity_of_find? found, found⟩
  others := fun _ different => (adopt_growsAt metadata registry).find?_of_ne different

/-! ## What a load comes to -/

/-- A load that asks no store, or gets nothing from it, answers what the registry
knows. -/
theorem loadsFor_unchanged
    (tidy : registry.Tidy) {answer : Except CallFailure (Option Metadata)}
    (known : ∀ metadata, answer = .ok (some metadata) →
      registry.find? identity = some metadata) :
    registry.LoadsFor identity answer registry where
  own := fun metadata answered =>
    ⟨tidy.identity_of_find? (known metadata answered), known metadata answered⟩
  others := fun _ _ => rfl

theorem load_of_adopted
    (unversioned : registry.version? identity = none)
    (answered : store.load identity state = (.ok (some stored), later)) :
    registry.load store identity state =
      (.ok (some (registry.adopt stored).1), (registry.adopt stored).2, later) := by
  rw [version?] at unversioned
  simp only [load, unversioned, answered, Option.isSome_none, Bool.false_eq_true, if_false]

/-- If the store has nothing, what the registry knows is answered. -/
theorem load_of_absent
    (unversioned : registry.version? identity = none)
    (answered : store.load identity state = (.ok none, later)) :
    registry.load store identity state = (.ok (registry.find? identity), registry, later) := by
  rw [version?] at unversioned
  simp only [load, unversioned, answered, Option.isSome_none, Bool.false_eq_true, if_false]

/-- Unless it takes over what the store answers, a load leaves the registry as it
is and answers nothing but what is known. -/
theorem load_of_not_adopted
    (other : (registry.version? identity).isSome ∨
      ∀ stored later, store.load identity state ≠ (.ok (some stored), later)) :
    (registry.load store identity state).2.1 = registry ∧
      ∀ metadata, (registry.load store identity state).1 = .ok (some metadata) →
        registry.find? identity = some metadata := by
  rw [version?] at other
  unfold load
  dsimp only
  split
  · exact ⟨rfl, fun _ answered => Except.ok.inj answered⟩
  · rename_i unversioned
    have nothing := other.resolve_left unversioned
    split
    · refine ⟨rfl, ?_⟩
      intro metadata answered
      cases answered
    · exact ⟨rfl, fun _ answered => Except.ok.inj answered⟩
    · rename_i answered
      exact absurd answered (nothing _ _)

/-- A load answers for the identity that it was asked for exactly if the registry
has a version of it or the store names no other identity. -/
theorem loadsFor_load_iff
    (tidy : registry.Tidy) (store : DefinitionStore τ) (identity : Identity) (state : τ) :
    registry.LoadsFor identity (registry.load store identity state).1
        (registry.load store identity state).2.1 ↔
      (registry.version? identity).isSome ∨ store.AnswersFor identity state := by
  constructor
  · intro loads
    cases unversioned : registry.version? identity with
    | some version => exact .inl rfl
    | none =>
        right
        intro stored later answered
        have loaded := load_of_adopted unversioned answered
        rw [loaded] at loads
        have asked := (loads.own _ rfl).1
        have named := ((loadsFor_adopt tidy stored).own _ rfl).1
        exact named.symm.trans asked
  · intro faithful
    by_cases adopted : registry.version? identity = none ∧
        ∃ stored later, store.load identity state = (.ok (some stored), later)
    · obtain ⟨unversioned, stored, later, answered⟩ := adopted
      have answersFor : store.AnswersFor identity state :=
        faithful.resolve_left (by simp [unversioned])
      have named := answersFor stored later answered
      rw [load_of_adopted unversioned answered, ← named]
      exact loadsFor_adopt tidy stored
    · have other : (registry.version? identity).isSome ∨
          ∀ stored later, store.load identity state ≠ (.ok (some stored), later) := by
        cases unversioned : registry.version? identity with
        | some version => exact .inl rfl
        | none =>
            right
            intro stored later answered
            exact adopted ⟨unversioned, stored, later, answered⟩
      obtain ⟨unchanged, known⟩ := load_of_not_adopted other
      rw [unchanged]
      exact loadsFor_unchanged tidy known

end Registry

namespace RegistryOperation

open Registry

/-- From an empty registry on, a load answers for the identity that it was asked
for exactly if the registry has a version of it or the store names no other
identity.  Otherwise it answers for the one that the store names: that identity
gets or keeps an entry, and the one that was asked for gets none. -/
theorem performAll_load_answers_iff
    (operations : List (RegistryOperation σ τ)) (origin : τ)
    (store : DefinitionStore υ) (identity : Identity) (state : υ) :
    let reached := (performAll operations .empty origin).1
    let outcome := reached.load store identity state
    (reached.LoadsFor identity outcome.1 outcome.2.1 ↔
        (reached.version? identity).isSome ∨ store.AnswersFor identity state) ∧
      ∀ stored later, reached.version? identity = none →
        store.load identity state = (.ok (some stored), later) →
          reached.LoadsFor stored.identity outcome.1 outcome.2.1 := by
  intro reached outcome
  have tidy : reached.Tidy := tidy_performAll operations origin
  refine ⟨loadsFor_load_iff tidy store identity state, ?_⟩
  intro stored later unversioned answered
  have loaded : outcome = _ := load_of_adopted unversioned answered
  rw [loaded]
  exact loadsFor_adopt tidy stored

/-- Metadata that is kept under an identity that is not its own. -/
def misfiled : Metadata where
  identity := Metadata.withinTolerance.identity
  name := "within_tolerance"
  displayName := "Within tolerance"
  moduleName := "checks"
  doc := ""
  moduleDoc := ""
  code := ""
  tags := []
  parameters := []
  kind := .function
  version := some 3

/-- Filed under the identity that it names, the same metadata is answered for it. -/
theorem load_answers_for_withinTolerance :
    let memory := Memory.empty.put misfiled.identity.text misfiled ⟨#[]⟩
    let outcome := Registry.empty.load Memory.store misfiled.identity memory
    outcome.1 = .ok (some misfiled) ∧
      Memory.store.AnswersFor misfiled.identity memory ∧
      Registry.empty.LoadsFor misfiled.identity outcome.1 outcome.2.1 := by
  intro memory outcome
  obtain ⟨answers, names⟩ := performAll_load_answers_iff (σ := Nat) (τ := Unit) [] ()
    Memory.store misfiled.identity memory
  have loads : Registry.empty.LoadsFor misfiled.identity outcome.1 outcome.2.1 :=
    names misfiled _ rfl rfl
  exact ⟨rfl, (answers.mp loads).resolve_left (by decide), loads⟩

/-- What a store in memory has under the identity `equality` names another
identity.  It becomes the entry of that one. -/
theorem load_does_not_answer_for_equality :
    let equality : Identity := ⟨"equality", by decide⟩
    let memory := Memory.empty.put equality.text misfiled ⟨#[]⟩
    let outcome := Registry.empty.load Memory.store equality memory
    outcome.1 = .ok (some misfiled) ∧
      outcome.2.1.find? misfiled.identity = some misfiled ∧
      ¬Registry.empty.LoadsFor equality outcome.1 outcome.2.1 := by
  intro equality memory outcome
  refine ⟨rfl, rfl, ?_⟩
  intro loads
  exact absurd (loads.own misfiled rfl).1 (by decide)

end RegistryOperation

end Assay
