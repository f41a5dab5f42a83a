import Assay.Proofs.Suite.Upload

/-!
# Uploads that stop and are repeated

An upload that fails keeps what it has done: the instances before the failure have
their versions in the registry, the one whose save failed has an entry without a
version, and nothing has happened to those after it.  A repeated upload goes on
from there.
-/

namespace Assay.Suite

variable {σ τ : Type}

/-- The calls that an upload makes are saves of definitions without a version, in
the order of their first appearance. -/
theorem uploadAll_transcribed
    {registry : Registry} (tidy : registry.Tidy)
    (instances : List (Instance σ)) (store : DefinitionStore τ) (state : τ) :
    let outcome := uploadAll store instances registry state
    ∃ calls,
      uploadAll store.transcribed instances registry (state, []) =
          (outcome.1, outcome.2.1, (outcome.2.2, calls)) ∧
        calls.map StoreExchange.savedIdentity? <+:
          (unversioned registry instances).map some := by
  rcases uploaded : uploadAll store instances registry state with
    ⟨failure | versions, final, later⟩
  · obtain ⟨before, bound, after, _, saves, next, _, rfl, uploads, unsaved, failed, rfl⟩ :=
      uploadAll_eq_error uploaded
    refine ⟨_, (uploads.transcribed []).uploadAll_of_save_error unsaved
      (DefinitionStore.save_transcribed failed _) after, ?_⟩
    obtain ⟨others, remaining⟩ := unversioned_cons_of_none unsaved after
    have stopped : (bound.entryIn next).identity = bound.identity :=
      bound.identity_entryIn (uploads.tidy tidy)
    rw [uploads.unversioned_append tidy, remaining, List.nil_append, List.map_append,
      List.map_append, SavedVersion.map_savedIdentity?_exchange, List.prefix_append_right_inj]
    apply List.cons_prefix_cons.mpr
    exact ⟨congrArg some stopped, List.nil_prefix⟩
  · obtain ⟨saves, uploads⟩ := uploadAll_eq_ok uploaded
    refine ⟨_, (uploads.transcribed []).uploadAll, [], ?_⟩
    rw [List.append_nil, List.nil_append, SavedVersion.map_savedIdentity?_exchange,
      uploads.saves_eq tidy]

/-- An upload that fails, in a registry with any history, has made the saves of the
definitions without a version before one instance and a failed save for that
instance, and no other calls.  What came before has a version in the registry, the
one from before or that of a save; the instance that failed has an entry without a
version; other entries are as they were.  A repeated upload, with whatever store,
saves only definitions that still have no version, and its versions for the earlier
instances are the ones that they have already. -/
theorem upload_resumes_after_failure
    {υ : Type} (earlier : List (RegistryOperation σ υ)) (origin : υ)
    {suite : Suite σ} {store : DefinitionStore τ} {state later : τ}
    {failure : CallFailure} {final : Registry}
    (stopped :
      suite.upload store (RegistryOperation.performAll earlier .empty origin).1 state =
        (.error failure, final, later)) :
    let registry := (RegistryOperation.performAll earlier .empty origin).1
    ∃ (before : List (Instance σ)) (bound : Instance σ) (after : List (Instance σ))
        (saves : List SavedVersion) (entry : Metadata),
      suite.instances = before ++ bound :: after ∧
        suite.upload store.transcribed registry (state, []) =
          (.error failure, final, (later,
            saves.map SavedVersion.exchange ++
              [.save entry bound.payload (.error failure)])) ∧
        saves.map SavedVersion.identity = unversioned registry before ∧
        (∀ identity ∈ identitiesOf before, ∃ version,
          final.version? identity = some version ∧
            (versionBefore? registry before identity = some version ∨
              ∃ saved ∈ saves, saved.identity = identity ∧ saved.version = version)) ∧
        entry.identity = bound.identity ∧
        final.find? bound.identity = some entry ∧
        entry.version = none ∧
        (∀ identity ∉ identitiesOf (before ++ [bound]),
          final.find? identity = registry.find? identity) ∧
        ∀ {ρ : Type} (again : DefinitionStore ρ) (fresh : ρ),
          let repeated := suite.upload again final fresh
          (∃ calls,
            suite.upload again.transcribed final (fresh, []) =
                (repeated.1, repeated.2.1, (repeated.2.2, calls)) ∧
              calls.map StoreExchange.savedIdentity? <+:
                (unversioned final suite.instances).map some) ∧
            ∀ versions, repeated.1 = .ok versions →
              (versions.map some).take before.length =
                (identitiesOf before).map final.version? := by
  intro registry
  have tidy : registry.Tidy := RegistryOperation.tidy_performAll earlier origin
  obtain ⟨before, bound, after, _, saves, next, _, split, uploads, unsaved, failed, rfl⟩ :=
    uploadAll_eq_error stopped
  have nextTidy : next.Tidy := uploads.tidy tidy
  refine ⟨before, bound, after, saves, bound.entryIn next, split, ?transcript,
    uploads.saves_eq tidy, ?versions, bound.identity_entryIn nextTidy,
    bound.find?_enrolledIn next, unsaved, ?untouched, ?repeated⟩
  case transcript =>
    rw [upload, split]
    exact (uploads.transcribed []).uploadAll_of_save_error unsaved
      (DefinitionStore.save_transcribed failed _) after
  case versions =>
    intro identity carried
    obtain ⟨version, known⟩ := uploads.version?_of_carried carried
    exact ⟨version, bound.version?_enrolledIn known,
      uploads.version_cases tidy carried known⟩
  case untouched =>
    intro identity absent
    rw [identitiesOf, List.map_append, List.mem_append, not_or, List.map_singleton,
      List.mem_singleton] at absent
    obtain ⟨notBefore, different⟩ := absent
    simpa [Ne.symm different] using uploads.find?_of_not_carried notBefore
  case repeated =>
    intro ρ again fresh repeated
    constructor
    · exact uploadAll_transcribed (bound.tidy_enrolledIn nextTidy) suite.instances again fresh
    · intro versions success
      obtain ⟨_, repeats⟩ := uploadAll_eq_ok (Prod.ext success rfl)
      have carriers : identitiesOf suite.instances =
          identitiesOf before ++ identitiesOf (bound :: after) := by
        rw [split, identitiesOf, List.map_append]
        rfl
      rw [repeats.versions_eq, carriers, List.map_append, List.take_left']
      · apply List.map_congr_left
        intro identity carried
        obtain ⟨version, known⟩ := uploads.version?_of_carried carried
        have assigned := bound.version?_enrolledIn known
        rw [repeats.version?_of_known assigned, assigned]
      · rw [identitiesOf, List.length_map, List.length_map]

/-- The save of the last definition times out; a second upload saves only that
one. -/
theorem upload_comparisons_again :
    let known : List (RegistryOperation Nat Unit) := [.adopt proximity]
    let registry := (RegistryOperation.performAll known .empty ()).1
    ∃ (final : Registry) (before : List (Instance Nat)) (calls : List StoreExchange),
      comparisons.upload .scripted registry [.ok 1] = (.error (.refused .timeout), final, []) ∧
        (comparisons.upload .scripted final [.ok 2]).1 = .ok [1, 4294967295, 1, 2] ∧
        ([1, 4294967295, 1, 2].map some).take before.length =
          (identitiesOf before).map final.version? ∧
        calls.map StoreExchange.savedIdentity? <+: [some ordering.identity] := by
  intro known registry
  let within := Metadata.withinTolerance
  let final : Registry :=
    ⟨[(proximity.identity, proximity.withVersion 1), (within.identity, within),
      (ordering.identity, ordering)]⟩
  have stopped : comparisons.upload .scripted registry [.ok 1] =
      (.error (.refused .timeout), final, []) := rfl
  have success : (comparisons.upload .scripted final [.ok 2]).1 =
      .ok [1, 4294967295, 1, 2] := rfl
  have unsaved : unversioned final comparisons.instances = [ordering.identity] := rfl
  obtain ⟨before, _, _, _, _, _, _, _, _, _, _, _, _, repeated⟩ :=
    upload_resumes_after_failure known () stopped
  obtain ⟨⟨calls, _, remaining⟩, assigned⟩ := repeated .scripted [.ok 2]
  rw [unsaved] at remaining
  exact ⟨final, before, calls, stopped, success, assigned _ success, remaining⟩

end Assay.Suite
