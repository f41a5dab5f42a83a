import Assay.Proofs.Suite.Upload

/-!
# Versions after an upload

After an upload that succeeds the registry knows a version of every definition of
the suite.  From then on it answers for them by itself: however often a version is
asked for, and in whichever way, no store is called for it again.
-/

namespace Assay

variable {σ τ : Type} {registry : Registry}

/-- The registry knows a version of each of these definitions. -/
def Registry.KnowsVersions (registry : Registry) (identities : List Identity) : Prop :=
  ∀ identity ∈ identities, ∃ version, registry.version? identity = some version

theorem Suite.uploadAll_of_known
    {instances : List (Instance σ)} (known : registry.KnowsVersions (identitiesOf instances))
    (store : DefinitionStore τ) (state : τ) :
    ∃ versions, uploadAll store instances registry state = (.ok versions, registry, state) ∧
      versions.map some = (identitiesOf instances).map registry.version? := by
  induction instances with
  | nil => exact ⟨[], rfl, rfl⟩
  | cons bound rest induction =>
      obtain ⟨⟨version, versioned⟩, others⟩ := List.forall_mem_cons.mp known
      obtain ⟨versions, uploaded, same⟩ := induction others
      refine ⟨version :: versions, ?_, ?_⟩
      · simp only [uploadAll, bound.upload_of_version? versioned, uploaded]
      · rw [List.map_cons, identitiesOf, List.map_cons, List.map_cons, versioned, same]
        rfl

/-- What answers with versions of definitions, each with a store of its own
choice. -/
inductive VersionRequest (σ τ : Type) where
  | save (store : DefinitionStore τ) (identity : Identity) (payload : Payload)
  | upload (store : DefinitionStore τ) (bound : Instance σ)
  | uploadSuite (store : DefinitionStore τ) (suite : Suite σ)

namespace VersionRequest

def identities : VersionRequest σ τ → List Identity
  | .save _ identity _ => [identity]
  | .upload _ bound => [bound.identity]
  | .uploadSuite _ suite => Suite.identitiesOf suite.instances

def answer (request : VersionRequest σ τ) (registry : Registry) (state : τ) :
    Except CallFailure (List Version) × Registry × τ :=
  match request with
  | .save store identity payload =>
      let (answer, later) := registry.save store identity payload state
      (answer.map fun version => [version], later)
  | .upload store bound =>
      let (answer, later) := bound.upload store registry state
      (answer.map fun version => [version], later)
  | .uploadSuite store suite => suite.upload store registry state

/-- Answer requests one after the other, also after one that failed. -/
def answerAll :
    List (VersionRequest σ τ) → Registry → τ →
      List (Except CallFailure (List Version)) × Registry × τ
  | [], registry, state => ([], registry, state)
  | request :: rest, registry, state =>
      let (answer, registry, state) := request.answer registry state
      let (answers, registry, state) := answerAll rest registry state
      (answer :: answers, registry, state)

theorem answer_of_known
    {request : VersionRequest σ τ} (known : registry.KnowsVersions request.identities)
    (state : τ) :
    ∃ versions, request.answer registry state = (.ok versions, registry, state) ∧
      versions.map some = request.identities.map registry.version? := by
  cases request with
  | save store identity payload =>
      obtain ⟨version, versioned⟩ := known identity List.mem_cons_self
      refine ⟨[version], ?_, by simp [identities, versioned]⟩
      simp only [answer, Registry.save_of_version? versioned]
      rfl
  | upload store bound =>
      obtain ⟨version, versioned⟩ := known bound.identity List.mem_cons_self
      refine ⟨[version], ?_, by simp [identities, versioned]⟩
      simp only [answer, bound.upload_of_version? versioned]
      rfl
  | uploadSuite store suite => exact Suite.uploadAll_of_known known store state

theorem answerAll_of_known
    {requests : List (VersionRequest σ τ)}
    (known : ∀ request ∈ requests, registry.KnowsVersions request.identities)
    (state : τ) :
    ∃ answers : List (List Version),
      answerAll requests registry state = (answers.map .ok, registry, state) ∧
        answers.map (·.map some) =
          requests.map fun request => request.identities.map registry.version? := by
  induction requests with
  | nil => exact ⟨[], rfl, rfl⟩
  | cons request rest induction =>
      rw [List.forall_mem_cons] at known
      obtain ⟨versions, answered, same⟩ := answer_of_known known.1 state
      obtain ⟨answers, restAnswered, restSame⟩ := induction known.2
      refine ⟨versions :: answers, ?_, ?_⟩
      · simp only [answerAll, answered, restAnswered, List.map_cons]
      · rw [List.map_cons, List.map_cons, same, restSame]

end VersionRequest

namespace Suite

/-- An upload that succeeds, in a registry with any history, answers with the
version that the registry has in the end for each instance, in their order.  Of
the store it takes one save for each identity that had no version, in the order
of their first appearance, and no other call.  Later requests for versions of
those identities are answered with the same versions, whatever their stores;
neither the registry nor the state of the stores changes. -/
theorem upload_saves_each_definition_once
    {υ : Type} (earlier : List (RegistryOperation σ υ)) (origin : υ)
    {suite : Suite σ} {store : DefinitionStore τ} {state later : τ}
    {versions : List Version} {final : Registry}
    (uploaded :
      suite.upload store (RegistryOperation.performAll earlier .empty origin).1 state =
        (.ok versions, final, later)) :
    let registry := (RegistryOperation.performAll earlier .empty origin).1
    let identities := identitiesOf suite.instances
    versions.length = suite.size ∧
      versions.map some = identities.map final.version? ∧
      (∀ first second : Nat, identities[first]? = identities[second]? →
        versions[first]? = versions[second]?) ∧
      (∃ saves : List SavedVersion,
        suite.upload store.transcribed registry (state, []) =
            (.ok versions, final, (later, saves.map SavedVersion.exchange)) ∧
          saves.map SavedVersion.identity = unversioned registry suite.instances) ∧
      ∀ {ρ : Type} (requests : List (VersionRequest σ ρ)) (fresh : ρ),
        (∀ request ∈ requests, request.identities ⊆ identities) →
          ∃ answers : List (List Version),
            VersionRequest.answerAll requests final fresh =
                (answers.map .ok, final, fresh) ∧
              answers.map (·.map some) =
                requests.map fun request => request.identities.map final.version? := by
  intro registry identities
  have tidy : registry.Tidy := RegistryOperation.tidy_performAll earlier origin
  obtain ⟨saves, uploads⟩ := uploadAll_eq_ok uploaded
  have same : versions.map some = identities.map final.version? := uploads.versions_eq
  refine ⟨?length, same, ?repeated, ?saves, ?requests⟩
  case length =>
    simpa only [List.length_map, identities, identitiesOf, size] using
      congrArg List.length same
  case repeated =>
    intro first second carried
    have answered (position : Nat) :
        versions[position]?.map some = identities[position]?.map final.version? := by
      rw [← List.getElem?_map, same, List.getElem?_map]
    apply (Option.map_inj_right fun _ _ => Option.some.inj).mp
    rw [answered first, answered second, carried]
  case saves => exact ⟨saves, (uploads.transcribed []).uploadAll, uploads.saves_eq tidy⟩
  case requests =>
    intro ρ requests fresh within
    apply VersionRequest.answerAll_of_known
    intro request member identity carried
    exact uploads.version?_of_carried (within request member carried)

theorem upload_comparisons :
    let known : List (RegistryOperation Nat Unit) := [.adopt proximity]
    let registry := (RegistryOperation.performAll known .empty ()).1
    ∃ versions final,
      comparisons.upload .scripted registry [.ok 1, .ok 2] = (.ok versions, final, []) ∧
        versions = [1, 4294967295, 1, 2] ∧
        versions.map some = (identitiesOf comparisons.instances).map final.version? ∧
        unversioned registry comparisons.instances =
          [proximity.identity, ordering.identity] := by
  intro known registry
  have uploaded : comparisons.upload .scripted registry [.ok 1, .ok 2] =
      (.ok [1, 4294967295, 1, 2], _, []) := rfl
  obtain ⟨_, same, _⟩ := upload_saves_each_definition_once known () uploaded
  exact ⟨_, _, uploaded, rfl, same, rfl⟩

end Suite

end Assay
