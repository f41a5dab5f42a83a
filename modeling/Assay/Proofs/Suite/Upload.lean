import Assay.Proofs.Metadata.RoundTrip
import Assay.Proofs.Registry.Upload
import Assay.Suite

/-!
# Uploads of suites

An upload of a suite is one upload after the other, each in the registry that the
one before it left.  It saves every definition once that has no version yet, at
the first instance that carries it, and from then on the registry answers for its
version.
-/

namespace Assay

variable {σ τ : Type}

/-! ## First appearances -/

theorem eraseDups_filter
    {α : Type} [DecidableEq α] (keep : α → Bool) (items : List α) :
    (items.filter keep).eraseDups = items.eraseDups.filter keep := by
  cases items with
  | nil => rfl
  | cons item rest =>
      -- The others are fewer, but they are no tail of the list.
      have others := eraseDups_filter keep (rest.filter fun other => !other == item)
      have swapped : (rest.filter fun other => !other == item).filter keep =
          (rest.filter keep).filter fun other => !other == item := by
        rw [List.filter_filter, List.filter_filter]
        exact List.filter_congr fun other _ => Bool.and_comm _ _
      rw [swapped] at others
      by_cases kept : keep item = true
      · rw [List.filter_cons_of_pos kept, List.eraseDups_cons, others,
          List.eraseDups_cons, List.filter_cons_of_pos kept]
      · have absent : (rest.filter keep).filter (fun other => !other == item) =
            rest.filter keep := by
          apply List.filter_eq_self.mpr
          intro other member
          have otherKept := (List.mem_filter.mp member).2
          simp only [Bool.not_eq_eq_eq_not, Bool.not_true, beq_eq_false_iff_ne]
          rintro rfl
          exact kept otherKept
        rw [List.filter_cons_of_neg kept, List.eraseDups_cons,
          List.filter_cons_of_neg kept, ← others, absent]
termination_by items.length
decreasing_by exact Nat.lt_succ_of_le (List.length_filter_le _ rest)

namespace Suite

variable {store : DefinitionStore τ} {bound : Instance σ}
  {instances earlier rest : List (Instance σ)} {registry next final : Registry}
  {state reached later : τ} {version : Version} {versions : List Version}
  {saves : List SavedVersion} {identity : Identity}

def identitiesOf (instances : List (Instance σ)) : List Identity :=
  instances.map (·.identity)

/-- The version that an identity has before an upload: that of the registry or,
where there is no entry, that of the first instance which carries it. -/
def versionBefore? (registry : Registry) (instances : List (Instance σ))
    (identity : Identity) : Option Version :=
  match registry.find? identity with
  | some known => known.version
  | none => (instances.find? (·.identity == identity)).bind (·.metadata.version)

/-- The identities without a version, in the order of their first appearance. -/
def unversioned (registry : Registry) (instances : List (Instance σ)) : List Identity :=
  (identitiesOf instances).eraseDups.filter fun identity =>
    (versionBefore? registry instances identity).isNone

theorem versionBefore?_head
    (registry : Registry) (bound : Instance σ) (rest : List (Instance σ)) :
    versionBefore? registry (bound :: rest) bound.identity =
      (bound.entryIn registry).version := by
  unfold versionBefore? Instance.entryIn
  cases registry.find? bound.identity with
  | none => simp
  | some known => rfl

theorem versionBefore?_tail
    (different : bound.identity ≠ identity)
    (same : next.find? identity = registry.find? identity) :
    versionBefore? next rest identity = versionBefore? registry (bound :: rest) identity := by
  unfold versionBefore?
  rw [same, List.find?_cons_of_neg (by simpa using different)]

theorem versionBefore?_of_version?
    (known : registry.version? identity = some version) (instances : List (Instance σ)) :
    versionBefore? registry instances identity = some version := by
  obtain ⟨metadata, found, versioned⟩ := Registry.find?_of_version? known
  simp only [versionBefore?, found, versioned]

/-- The first instance is saved if it has no version; what is saved after it is
saved after it in the registry that it leaves. -/
theorem unversioned_cons
    (known : next.version? bound.identity = some version)
    (others : ∀ identity, bound.identity ≠ identity →
      next.find? identity = registry.find? identity) :
    unversioned registry (bound :: rest) =
      (if (bound.entryIn registry).version.isNone then [bound.identity] else []) ++
        unversioned next rest := by
  have tail : (identitiesOf rest).eraseDups.filter
        (fun identity => (versionBefore? next rest identity).isNone) =
      ((identitiesOf rest).filter fun identity => !identity == bound.identity).eraseDups.filter
        (fun identity => (versionBefore? registry (bound :: rest) identity).isNone) := by
    rw [eraseDups_filter, List.filter_filter]
    apply List.filter_congr
    intro identity _
    by_cases same : identity = bound.identity
    · rw [same, versionBefore?_of_version? known]
      simp
    · rw [versionBefore?_tail (Ne.symm same) (others identity (Ne.symm same))]
      simp [same]
  rw [unversioned, unversioned, tail, identitiesOf, List.map_cons, List.eraseDups_cons,
    List.filter_cons, versionBefore?_head]
  split
  · rfl
  · rfl

theorem unversioned_cons_of_none
    (unsaved : (bound.entryIn registry).version = none) (rest : List (Instance σ)) :
    ∃ others, unversioned registry (bound :: rest) = bound.identity :: others := by
  rw [unversioned, identitiesOf, List.map_cons, List.eraseDups_cons, List.filter_cons_of_pos]
  · exact ⟨_, rfl⟩
  · rw [versionBefore?_head, unsaved]
    rfl

/-! ## Runs of uploads -/

/-- Uploads one after the other that all succeed, with their versions and the
saves that they took. -/
inductive UploadsAll (store : DefinitionStore τ) :
    List (Instance σ) → Registry → τ → List Version → List SavedVersion →
      Registry → τ → Prop where
  | done (registry : Registry) (state : τ) :
      UploadsAll store [] registry state [] [] registry state
  | next {bound : Instance σ} {rest : List (Instance σ)} {registry next final : Registry}
      {state reached later : τ} {version : Version} {versions : List Version}
      {saves laterSaves : List SavedVersion}
      (first : bound.Uploads store registry state version saves next reached)
      (others : UploadsAll store rest next reached versions laterSaves final later) :
      UploadsAll store (bound :: rest) registry state (version :: versions)
        (saves ++ laterSaves) final later

theorem uploadAll_eq_ok
    (uploaded : uploadAll store instances registry state = (.ok versions, final, later)) :
    ∃ saves, UploadsAll store instances registry state versions saves final later := by
  induction instances generalizing registry state versions with
  | nil =>
      simp only [uploadAll, Prod.mk.injEq, Except.ok.injEq] at uploaded
      obtain ⟨rfl, rfl, rfl⟩ := uploaded
      exact ⟨[], .done registry state⟩
  | cons bound rest induction =>
      rcases first : bound.upload store registry state with ⟨_ | version, next, reached⟩
      · simp [uploadAll, first] at uploaded
      · rcases others : uploadAll store rest next reached with ⟨_ | restVersions, last, finish⟩
        · simp [uploadAll, first, others] at uploaded
        · simp only [uploadAll, first, others, Prod.mk.injEq, Except.ok.injEq] at uploaded
          obtain ⟨rfl, rfl, rfl⟩ := uploaded
          obtain ⟨saves, firstUploads⟩ := Instance.upload_eq_ok first
          obtain ⟨laterSaves, restUploads⟩ := induction others
          exact ⟨saves ++ laterSaves, .next firstUploads restUploads⟩

/-- A run that fails stops at an instance whose save fails, after uploads that
succeed. -/
theorem uploadAll_eq_error
    {failure : CallFailure}
    (failed : uploadAll store instances registry state = (.error failure, final, later)) :
    ∃ earlier bound rest versions saves next reached,
      instances = earlier ++ bound :: rest ∧
        UploadsAll store earlier registry state versions saves next reached ∧
        (bound.entryIn next).version = none ∧
        store.save (bound.entryIn next) bound.payload reached = (.error failure, later) ∧
        final = bound.enrolledIn next := by
  induction instances generalizing registry state with
  | nil => simp [uploadAll] at failed
  | cons bound rest induction =>
      rcases first : bound.upload store registry state with ⟨other | version, next, reached⟩
      · simp only [uploadAll, first, Prod.mk.injEq, Except.error.injEq] at failed
        obtain ⟨rfl, rfl, rfl⟩ := failed
        exact ⟨[], bound, rest, [], [], registry, state, rfl, .done registry state,
          Instance.upload_eq_error_iff.mp first⟩
      · rcases others : uploadAll store rest next reached with ⟨other | _, last, finish⟩
        · simp only [uploadAll, first, others, Prod.mk.injEq, Except.error.injEq] at failed
          obtain ⟨rfl, rfl, rfl⟩ := failed
          obtain ⟨saves, firstUploads⟩ := Instance.upload_eq_ok first
          obtain ⟨earlier, stopped, after, versions, laterSaves, middle, there, split,
            restUploads, failure⟩ := induction others
          exact ⟨bound :: earlier, stopped, after, version :: versions, saves ++ laterSaves,
            middle, there, congrArg (bound :: ·) split, .next firstUploads restUploads, failure⟩
        · simp [uploadAll, first, others] at failed

namespace UploadsAll

theorem uploadAll_append
    (uploads : UploadsAll store earlier registry state versions saves next reached)
    (rest : List (Instance σ)) :
    uploadAll store (earlier ++ rest) registry state =
      match uploadAll store rest next reached with
      | (.error failure, final, later) => (.error failure, final, later)
      | (.ok laterVersions, final, later) => (.ok (versions ++ laterVersions), final, later) := by
  induction uploads with
  | done registry state =>
      rcases uploaded : uploadAll store rest registry state with ⟨_ | _, final, later⟩ <;>
        simp [uploaded]
  | next first others induction =>
      simp only [List.cons_append, uploadAll, first.upload, induction]
      rcases uploadAll store rest _ _ with ⟨_ | _, final, later⟩ <;> rfl

theorem uploadAll
    (uploads : UploadsAll store instances registry state versions saves final later) :
    uploadAll store instances registry state = (.ok versions, final, later) := by
  simpa [Suite.uploadAll] using uploads.uploadAll_append []

theorem uploadAll_of_save_error
    (uploads : UploadsAll store earlier registry state versions saves next reached)
    {failure : CallFailure}
    (unversioned : (bound.entryIn next).version = none)
    (failed : store.save (bound.entryIn next) bound.payload reached = (.error failure, later))
    (rest : List (Instance σ)) :
    Suite.uploadAll store (earlier ++ bound :: rest) registry state =
      (.error failure, bound.enrolledIn next, later) := by
  have stopped := Instance.upload_eq_error_iff.mpr ⟨unversioned, failed, rfl⟩
  rw [uploads.uploadAll_append]
  simp only [Suite.uploadAll, stopped]

theorem transcribed
    (uploads : UploadsAll store instances registry state versions saves final later)
    (transcript : List StoreExchange) :
    UploadsAll store.transcribed instances registry (state, transcript) versions saves final
      (later, transcript ++ saves.map SavedVersion.exchange) := by
  induction uploads generalizing transcript with
  | done registry state =>
      rw [List.map_nil, List.append_nil]
      exact .done registry (state, transcript)
  | next first others induction =>
      rw [List.map_append, ← List.append_assoc]
      exact .next (first.transcribed transcript) (induction _)

theorem tidy
    (uploads : UploadsAll store instances registry state versions saves final later)
    (tidy : registry.Tidy) : final.Tidy := by
  induction uploads with
  | done => exact tidy
  | next first others induction => exact induction (first.tidy tidy)

/-- What has a version before keeps it. -/
theorem version?_of_known
    (uploads : UploadsAll store instances registry state versions saves final later)
    (known : registry.version? identity = some version) :
    final.version? identity = some version := by
  induction uploads with
  | done => exact known
  | @next bound rest registry next final _ _ _ given _ _ _ first others induction =>
      apply induction
      by_cases same : bound.identity = identity
      · subst same
        have sameOutcome := first.upload.symm.trans (bound.upload_of_version? known store _)
        rw [Prod.mk.injEq, Prod.mk.injEq] at sameOutcome
        rw [sameOutcome.2.1]
        exact known
      · rw [Registry.version?, first.find?_of_ne same]
        exact known

theorem find?_of_not_carried
    (uploads : UploadsAll store instances registry state versions saves final later)
    (absent : identity ∉ identitiesOf instances) :
    final.find? identity = registry.find? identity := by
  induction uploads with
  | done => rfl
  | next first others induction =>
      rw [identitiesOf, List.map_cons, List.mem_cons, not_or] at absent
      rw [induction absent.2, first.find?_of_ne (Ne.symm absent.1)]

/-- Every version is the one that the registry has in the end. -/
theorem versions_eq
    (uploads : UploadsAll store instances registry state versions saves final later) :
    versions.map some = (identitiesOf instances).map final.version? := by
  induction uploads with
  | done => rfl
  | next first others induction =>
      rw [identitiesOf, List.map_cons, List.map_cons, List.map_cons,
        others.version?_of_known first.version?_self]
      exact congrArg _ induction

theorem version?_of_carried
    (uploads : UploadsAll store instances registry state versions saves final later)
    (carried : identity ∈ identitiesOf instances) :
    ∃ version, final.version? identity = some version := by
  have listed : final.version? identity ∈ versions.map some := by
    rw [uploads.versions_eq]
    exact List.mem_map_of_mem carried
  obtain ⟨version, _, known⟩ := List.mem_map.mp listed
  exact ⟨version, known.symm⟩

/-- A version was there before, or it is that of a save. -/
theorem version_cases
    (uploads : UploadsAll store instances registry state versions saves final later)
    (tidy : registry.Tidy) (carried : identity ∈ identitiesOf instances)
    (known : final.version? identity = some version) :
    versionBefore? registry instances identity = some version ∨
      ∃ saved ∈ saves, saved.identity = identity ∧ saved.version = version := by
  induction uploads with
  | done => contradiction
  | @next bound rest registry next final _ _ _ given _ firstSaves laterSaves first others
      induction =>
      by_cases same : bound.identity = identity
      · subst same
        have answered := others.version?_of_known first.version?_self
        obtain rfl : given = version := Option.some.inj (answered.symm.trans known)
        rcases first.version_cases with ⟨versioned, _⟩ | ⟨_, rfl⟩
        · left
          rw [versionBefore?_head, versioned]
        · right
          exact ⟨_, List.mem_append_left _ List.mem_cons_self,
            bound.identity_entryIn tidy, rfl⟩
      · have after : identity ∈ identitiesOf rest := by
          rcases List.mem_cons.mp carried with here | after
          · exact absurd here.symm same
          · exact after
        rcases induction (first.tidy tidy) after known with before | ⟨saved, member, found⟩
        · left
          rw [← versionBefore?_tail same (first.find?_of_ne same)]
          exact before
        · right
          exact ⟨saved, List.mem_append_right firstSaves member, found⟩

theorem unversioned_append
    (uploads : UploadsAll store earlier registry state versions saves next reached)
    (tidy : registry.Tidy) (rest : List (Instance σ)) :
    unversioned registry (earlier ++ rest) =
      saves.map SavedVersion.identity ++ unversioned next rest := by
  induction uploads with
  | done => rfl
  | @next bound _ registry _ _ _ _ _ _ _ firstSaves _ first others induction =>
      have head : firstSaves.map SavedVersion.identity =
          if (bound.entryIn registry).version.isNone then [bound.identity] else [] := by
        rcases first.version_cases with ⟨versioned, rfl⟩ | ⟨unversioned, rfl⟩
        · simp [versioned]
        · simp [unversioned, SavedVersion.identity, bound.identity_entryIn tidy]
      rw [List.cons_append, unversioned_cons first.version?_self fun _ => first.find?_of_ne,
        induction (first.tidy tidy), List.map_append, head, List.append_assoc]

/-- What was saved are the definitions without a version. -/
theorem saves_eq
    (uploads : UploadsAll store instances registry state versions saves final later)
    (tidy : registry.Tidy) :
    saves.map SavedVersion.identity = unversioned registry instances := by
  have all := uploads.unversioned_append tidy []
  rw [List.append_nil] at all
  rw [all]
  exact (List.append_nil _).symm

end UploadsAll

/-! ## A suite -/

def proximity : Metadata :=
  { Metadata.withinTolerance with
    identity := ⟨"proximity", by decide⟩
    name := "proximity"
    version := none }

def ordering : Metadata :=
  { proximity with
    identity := ⟨"ordering", by decide⟩
    name := "ordering" }

/-- The first definition is there twice; the instance after it comes with a version from
elsewhere. -/
def comparisons : Suite Nat :=
  let passes : Logic Nat := fun _ calls => (.ok (.verdict true), calls + 1)
  ⟨none, [⟨proximity, passes, .empty⟩, ⟨.withinTolerance, passes, .empty⟩,
    ⟨proximity, passes, .empty⟩, ⟨ordering, passes, .empty⟩]⟩

end Suite

end Assay
