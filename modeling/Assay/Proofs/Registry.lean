import Assay.Proofs.Metadata
import Assay.Registry

/-!
# What can be written into a registry

A registry is changed by writes only.  A write adds the first entry of an
identity, or it gives an entry without a version the same definition with one.
Every operation comes down to such writes, for a single identity, so whatever
writes keep is kept by every operation.
-/

namespace Assay.Registry

/-! ## Entries -/

private theorem find?_putEntry
    (identity : Identity) (metadata : Metadata) (other : Identity)
    (entries : List (Identity × Metadata)) :
    ((putEntry identity metadata entries).find? (·.1 == other)).map (·.2) =
      if identity = other then some metadata
      else (entries.find? (·.1 == other)).map (·.2) := by
  induction entries with
  | nil => by_cases same : identity = other <;> simp [putEntry, same]
  | cons entry rest induction =>
      by_cases replaced : entry.1 = identity
      · by_cases same : identity = other
        · simp [putEntry, replaced, same]
        · simp [putEntry, replaced, same]
      · rw [putEntry, if_neg replaced]
        by_cases wanted : entry.1 = other
        · have different : identity ≠ other := fun equal =>
            replaced (wanted.trans equal.symm)
          simp [wanted, different]
        · simpa [wanted] using induction

@[simp] theorem find?_empty (identity : Identity) : empty.find? identity = none := rfl

theorem find?_put
    (registry : Registry) (identity : Identity) (metadata : Metadata)
    (other : Identity) :
    (registry.put identity metadata).find? other =
      if identity = other then some metadata else registry.find? other :=
  find?_putEntry identity metadata other registry.entries

@[simp] theorem find?_put_self
    (registry : Registry) (identity : Identity) (metadata : Metadata) :
    (registry.put identity metadata).find? identity = some metadata := by
  rw [find?_put, if_pos rfl]

@[simp] theorem find?_put_of_ne
    (registry : Registry) {identity other : Identity} (metadata : Metadata)
    (different : identity ≠ other) :
    (registry.put identity metadata).find? other = registry.find? other := by
  rw [find?_put, if_neg different]

private theorem putEntry_putEntry
    (identity : Identity) (first second : Metadata)
    (entries : List (Identity × Metadata)) :
    putEntry identity second (putEntry identity first entries) =
      putEntry identity second entries := by
  induction entries with
  | nil => simp [putEntry]
  | cons entry rest induction =>
      by_cases replaced : entry.1 = identity
      · simp [putEntry, replaced]
      · simp only [putEntry, if_neg replaced, induction]

/-- The second of two writes for an identity is all that counts. -/
@[simp] theorem put_put
    (registry : Registry) (identity : Identity) (first second : Metadata) :
    (registry.put identity first).put identity second = registry.put identity second :=
  congrArg Registry.mk (putEntry_putEntry identity first second registry.entries)

private theorem mem_putEntry
    {identity : Identity} {metadata : Metadata}
    {entries : List (Identity × Metadata)} {entry : Identity × Metadata}
    (member : entry ∈ putEntry identity metadata entries) :
    entry = (identity, metadata) ∨ entry ∈ entries := by
  induction entries with
  | nil => exact Or.inl (List.mem_singleton.mp member)
  | cons first rest induction =>
      by_cases replaced : first.1 = identity
      · rw [putEntry, if_pos replaced] at member
        rcases List.mem_cons.mp member with put | later
        · exact Or.inl put
        · exact Or.inr (List.mem_cons_of_mem _ later)
      · rw [putEntry, if_neg replaced] at member
        rcases List.mem_cons.mp member with same | later
        · exact Or.inr (same ▸ List.mem_cons_self)
        · rcases induction later with put | present
          · exact Or.inl put
          · exact Or.inr (List.mem_cons_of_mem _ present)

private theorem putEntry_distinct
    {identity : Identity} {metadata : Metadata}
    {entries : List (Identity × Metadata)}
    (distinct : (entries.map (·.1)).Nodup) :
    ((putEntry identity metadata entries).map (·.1)).Nodup := by
  induction entries with
  | nil => simp [putEntry]
  | cons first rest induction =>
      by_cases replaced : first.1 = identity
      · rw [List.map_cons, replaced] at distinct
        rw [putEntry, if_pos replaced, List.map_cons]
        exact distinct
      · rw [List.map_cons, List.nodup_cons] at distinct
        rw [putEntry, if_neg replaced, List.map_cons, List.nodup_cons]
        refine ⟨?_, induction distinct.2⟩
        intro member
        obtain ⟨entry, inPut, sameIdentity⟩ := List.mem_map.mp member
        rcases mem_putEntry inPut with rfl | present
        · exact replaced sameIdentity.symm
        · exact distinct.1 (List.mem_map.mpr ⟨entry, present, sameIdentity⟩)

/-- Every entry is stored under its own identity, and no identity has two. -/
structure Tidy (registry : Registry) : Prop where
  ownIdentity : ∀ entry ∈ registry.entries, entry.1 = entry.2.identity
  distinct : (registry.entries.map (·.1)).Nodup

theorem tidy_empty : empty.Tidy where
  ownIdentity := fun _ member => absurd member List.not_mem_nil
  distinct := List.nodup_nil

theorem Tidy.put
    {registry : Registry} (tidy : registry.Tidy) (metadata : Metadata) :
    (registry.put metadata.identity metadata).Tidy where
  ownIdentity := by
    intro entry member
    rcases mem_putEntry member with rfl | present
    · rfl
    · exact tidy.ownIdentity entry present
  distinct := putEntry_distinct tidy.distinct

theorem Tidy.identity_of_find?
    {registry : Registry} (tidy : registry.Tidy)
    {identity : Identity} {metadata : Metadata}
    (found : registry.find? identity = some metadata) :
    metadata.identity = identity := by
  obtain ⟨entry, search, rfl⟩ := Option.map_eq_some_iff.mp found
  have sought : entry.1 = identity := by simpa using List.find?_some search
  rw [← tidy.ownIdentity entry (List.mem_of_find?_eq_some search), sought]

/-! ## Writes -/

/-- What may be written: the first entry of an identity, or the definition of an
entry without a version, now with one. -/
inductive Admits (registry : Registry) (metadata : Metadata) : Prop where
  | first (unknown : registry.find? metadata.identity = none)
  | version {existing : Metadata}
      (known : registry.find? metadata.identity = some existing)
      (unversioned : existing.version = none)
      (versioned : metadata.version.isSome = true)
      (same : existing.sameDefinition metadata = true)

/-- The second registry is the first one after the writes in the list. -/
inductive Grows : Registry → List Metadata → Registry → Prop where
  | unchanged (registry : Registry) : Grows registry [] registry
  | write {registry final : Registry} {metadata : Metadata}
      {later : List Metadata} (admitted : registry.Admits metadata)
      (rest : Grows (registry.put metadata.identity metadata) later final) :
      Grows registry (metadata :: later) final

theorem Admits.grows
    {registry : Registry} {metadata : Metadata}
    (admitted : registry.Admits metadata) :
    registry.Grows [metadata] (registry.put metadata.identity metadata) :=
  .write admitted (.unchanged _)

theorem Grows.append
    {registry middle final : Registry} {earlier later : List Metadata}
    (first : registry.Grows earlier middle) (second : middle.Grows later final) :
    registry.Grows (earlier ++ later) final := by
  induction first with
  | unchanged => exact second
  | write admitted rest induction => exact .write admitted (induction second)

theorem Grows.tidy
    {registry final : Registry} {written : List Metadata}
    (grows : registry.Grows written final) (tidy : registry.Tidy) :
    final.Tidy := by
  induction grows with
  | unchanged => exact tidy
  | @write registry final metadata later admitted rest induction =>
      exact induction (tidy.put metadata)

/-- One write keeps every entry, but for the version of one that has none. -/
theorem Admits.find?_put
    {registry : Registry} {metadata known : Metadata}
    (admitted : registry.Admits metadata) {identity : Identity}
    (found : registry.find? identity = some known) :
    ∃ kept, (registry.put metadata.identity metadata).find? identity = some kept ∧
      kept.sameDefinition known = true ∧
      ∀ version, known.version = some version → kept.version = some version := by
  by_cases sameIdentity : metadata.identity = identity
  · subst sameIdentity
    refine ⟨metadata, by simp, ?_⟩
    cases admitted with
    | first unknown => simp [unknown] at found
    | @version existing existingFound unversioned versioned same =>
        obtain rfl : existing = known :=
          Option.some.inj (existingFound.symm.trans found)
        refine ⟨Metadata.sameDefinition_symm same, ?_⟩
        intro version hasVersion
        simp [unversioned] at hasVersion
  · exact ⟨known, by simpa [sameIdentity] using found, by simp, fun _ => id⟩

/-- Writes keep every entry, but for the version of one that has none. -/
theorem Grows.find?_of_known
    {registry final : Registry} {written : List Metadata}
    (grows : registry.Grows written final)
    {identity : Identity} {known : Metadata}
    (found : registry.find? identity = some known) :
    ∃ kept, final.find? identity = some kept ∧
      kept.sameDefinition known = true ∧
      ∀ version, known.version = some version → kept.version = some version := by
  induction grows generalizing known with
  | unchanged =>
      exact ⟨known, found, by simp, fun _ => id⟩
  | write admitted rest induction =>
      obtain ⟨middle, middleFound, middleSame, middleVersion⟩ :=
        admitted.find?_put found
      obtain ⟨kept, keptFound, keptSame, keptVersion⟩ := induction middleFound
      refine ⟨kept, keptFound, Metadata.sameDefinition_trans keptSame middleSame, ?_⟩
      intro version hasVersion
      exact keptVersion version (middleVersion version hasVersion)

theorem Grows.find?_of_not_written
    {registry final : Registry} {written : List Metadata}
    (grows : registry.Grows written final) {identity : Identity}
    (others : ∀ metadata ∈ written, metadata.identity ≠ identity) :
    final.find? identity = registry.find? identity := by
  induction grows with
  | unchanged => rfl
  | @write registry final metadata later admitted rest induction =>
      obtain ⟨different, restOthers⟩ := List.forall_mem_cons.mp others
      simp [induction restOthers, different]

/-- An entry that was not there before is the definition first written for its
identity. -/
theorem Grows.first_written
    {registry final : Registry} {written : List Metadata}
    (grows : registry.Grows written final)
    {identity : Identity} {kept : Metadata}
    (unknown : registry.find? identity = none)
    (found : final.find? identity = some kept) :
    ∃ first, written.find? (·.identity == identity) = some first ∧
      kept.sameDefinition first = true := by
  induction grows with
  | unchanged => simp [unknown] at found
  | @write registry final metadata later admitted rest induction =>
      by_cases sameIdentity : metadata.identity = identity
      · refine ⟨metadata, by simp [sameIdentity], ?_⟩
        subst sameIdentity
        obtain ⟨last, lastFound, lastSame, _⟩ :=
          rest.find?_of_known (find?_put_self registry metadata.identity metadata)
        obtain rfl : last = kept := Option.some.inj (lastFound.symm.trans found)
        exact lastSame
      · have stillUnknown :
            (registry.put metadata.identity metadata).find? identity = none := by
          simpa [sameIdentity] using unknown
        obtain ⟨first, firstFound, same⟩ := induction stillUnknown found
        exact ⟨first, by simpa [sameIdentity] using firstFound, same⟩

/-- How often an identity can still be written: for its entry and for its
version. -/
def writesLeft (registry : Registry) (identity : Identity) : Nat :=
  match registry.find? identity with
  | none => 2
  | some metadata => if metadata.version.isNone then 1 else 0

@[simp] theorem writesLeft_put_of_ne
    (registry : Registry) {identity other : Identity} (metadata : Metadata)
    (different : identity ≠ other) :
    (registry.put identity metadata).writesLeft other = registry.writesLeft other := by
  simp [writesLeft, different]

/-- A write uses up one of those that its identity has left. -/
theorem Admits.writesLeft_put_lt
    {registry : Registry} {metadata : Metadata}
    (admitted : registry.Admits metadata) :
    (registry.put metadata.identity metadata).writesLeft metadata.identity <
      registry.writesLeft metadata.identity := by
  have after : (registry.put metadata.identity metadata).writesLeft
      metadata.identity = if metadata.version.isNone then 1 else 0 := by
    simp [writesLeft]
  rw [after]
  cases admitted with
  | first unknown =>
      have before : registry.writesLeft metadata.identity = 2 := by
        simp only [writesLeft, unknown]
      split <;> omega
  | version known unversioned versioned same =>
      have before : registry.writesLeft metadata.identity = 1 := by
        simp [writesLeft, known, unversioned]
      have used : metadata.version.isNone = false := by
        simpa [Option.isSome_iff_ne_none] using versioned
      simp [used, before]

theorem Grows.countP_le_writesLeft
    {registry final : Registry} {written : List Metadata}
    (grows : registry.Grows written final) (identity : Identity) :
    written.countP (·.identity == identity) ≤ registry.writesLeft identity := by
  induction grows with
  | unchanged => exact Nat.zero_le _
  | @write registry final metadata later admitted rest induction =>
      by_cases sameIdentity : metadata.identity = identity
      · subst sameIdentity
        have used := admitted.writesLeft_put_lt
        rw [List.countP_cons_of_pos (by simp)]
        omega
      · rw [writesLeft_put_of_ne registry metadata sameIdentity] at induction
        rw [List.countP_cons_of_neg (by simpa using sameIdentity)]
        exact induction

/-! ## Operations -/

/-- Some writes, all of them for one identity. -/
def GrowsAt (registry : Registry) (identity : Identity) (final : Registry) : Prop :=
  ∃ written, registry.Grows written final ∧
    ∀ metadata ∈ written, metadata.identity = identity

theorem GrowsAt.unchanged (registry : Registry) (identity : Identity) :
    registry.GrowsAt identity registry :=
  ⟨[], .unchanged registry, fun _ member => absurd member List.not_mem_nil⟩

theorem Admits.growsAt
    {registry : Registry} {metadata : Metadata}
    (admitted : registry.Admits metadata) :
    registry.GrowsAt metadata.identity
      (registry.put metadata.identity metadata) := by
  refine ⟨[metadata], admitted.grows, ?_⟩
  intro other member
  rw [List.mem_singleton.mp member]

theorem GrowsAt.trans
    {registry middle final : Registry} {identity : Identity}
    (first : registry.GrowsAt identity middle)
    (second : middle.GrowsAt identity final) :
    registry.GrowsAt identity final := by
  obtain ⟨earlier, earlierGrows, earlierIdentity⟩ := first
  obtain ⟨later, laterGrows, laterIdentity⟩ := second
  refine ⟨earlier ++ later, earlierGrows.append laterGrows, ?_⟩
  intro metadata member
  rcases List.mem_append.mp member with inEarlier | inLater
  · exact earlierIdentity metadata inEarlier
  · exact laterIdentity metadata inLater

theorem GrowsAt.find?_of_ne
    {registry final : Registry} {identity other : Identity}
    (grows : registry.GrowsAt identity final) (different : other ≠ identity) :
    final.find? other = registry.find? other := by
  obtain ⟨written, writes, sameIdentity⟩ := grows
  apply writes.find?_of_not_written
  intro metadata member equal
  exact different (equal.symm.trans (sameIdentity metadata member))

theorem insertFirst_growsAt (candidate : Metadata) (registry : Registry) :
    registry.GrowsAt candidate.identity (insertFirst candidate registry).2 := by
  unfold insertFirst
  cases found : registry.find? candidate.identity with
  | some existing => exact .unchanged registry _
  | none => exact (Admits.first found).growsAt

theorem adopt_of_unknown
    {registry : Registry} {metadata : Metadata}
    (unknown : registry.find? metadata.identity = none) :
    registry.adopt metadata = (metadata, registry.put metadata.identity metadata) := by
  rw [adopt, unknown]

/-- A stored version replaces an entry without one. -/
theorem adopt_of_unversioned
    {registry : Registry} {metadata existing : Metadata} {version : Version}
    (found : registry.find? metadata.identity = some existing)
    (unversioned : existing.version = none) (versioned : metadata.version = some version)
    (same : existing.sameDefinition metadata = true) :
    registry.adopt metadata = (metadata, registry.put metadata.identity metadata) := by
  simp [adopt, found, unversioned, versioned, same]

theorem adopt_growsAt (metadata : Metadata) (registry : Registry) :
    registry.GrowsAt metadata.identity (adopt metadata registry).2 := by
  cases found : registry.find? metadata.identity with
  | none =>
      rw [adopt_of_unknown found]
      exact (Admits.first found).growsAt
  | some existing =>
      simp only [adopt, found]
      by_cases upgraded : (existing.version.isNone && metadata.version.isSome
          && existing.sameDefinition metadata) = true
      · simp only [upgraded, if_true]
        simp only [Bool.and_eq_true, Option.isNone_iff_eq_none] at upgraded
        obtain ⟨⟨unversioned, versioned⟩, same⟩ := upgraded
        exact (Admits.version found unversioned versioned same).growsAt
      · simp only [upgraded]
        exact .unchanged registry _

/-- What is answered for a candidate is the entry of its identity. -/
@[simp] theorem find?_insertFirst (candidate : Metadata) (registry : Registry) :
    (registry.insertFirst candidate).2.find? candidate.identity =
      some (registry.insertFirst candidate).1 := by
  unfold insertFirst
  cases found : registry.find? candidate.identity with
  | some existing => exact found
  | none => simp

/-- What is answered for stored metadata is the entry of its identity. -/
@[simp] theorem find?_adopt (metadata : Metadata) (registry : Registry) :
    (registry.adopt metadata).2.find? metadata.identity =
      some (registry.adopt metadata).1 := by
  unfold adopt
  cases found : registry.find? metadata.identity with
  | none => simp
  | some existing =>
      dsimp only
      split
      · simp
      · exact found

theorem insertFirst_fst_congr
    {candidate : Metadata} {left right : Registry}
    (same : left.find? candidate.identity = right.find? candidate.identity) :
    (left.insertFirst candidate).1 = (right.insertFirst candidate).1 := by
  rw [insertFirst, insertFirst, same]
  cases right.find? candidate.identity <;> rfl

theorem adopt_fst_congr
    {metadata : Metadata} {left right : Registry}
    (same : left.find? metadata.identity = right.find? metadata.identity) :
    (left.adopt metadata).1 = (right.adopt metadata).1 := by
  rw [adopt, adopt, same]
  cases right.find? metadata.identity with
  | none => rfl
  | some existing =>
      dsimp only
      split <;> rfl

theorem recordVersion_of_unversioned
    {registry : Registry} {identity : Identity} {known : Metadata}
    (found : registry.find? identity = some known) (unversioned : known.version = none)
    (version : Version) :
    registry.recordVersion identity version =
      (.ok (known.withVersion version),
        registry.put identity (known.withVersion version)) := by
  simp only [recordVersion, found, unversioned]

theorem recordVersion_growsAt
    (identity : Identity) (version : Version)
    {registry : Registry} (tidy : registry.Tidy) :
    registry.GrowsAt identity (recordVersion identity version registry).2 := by
  cases found : registry.find? identity with
  | none =>
      have kept : (recordVersion identity version registry).2 = registry := by
        simp only [recordVersion, found]
      rw [kept]
      exact .unchanged registry identity
  | some existing =>
      cases recorded : existing.version with
      | some registered =>
          have kept : (recordVersion identity version registry).2 = registry := by
            simp only [recordVersion, found, recorded]
            split <;> rfl
          rw [kept]
          exact .unchanged registry identity
      | none =>
          have put : (recordVersion identity version registry).2 =
              registry.put identity (existing.withVersion version) := by
            rw [recordVersion_of_unversioned found recorded]
          -- The entry is written under the identity that it was looked up by,
          -- which in a tidy registry is its own.
          have own : existing.identity = identity := tidy.identity_of_find? found
          rw [put]
          subst own
          have admits : Admits registry (existing.withVersion version) :=
            .version found recorded rfl
              (Metadata.sameDefinition_withVersion existing version)
          exact admits.growsAt

variable {τ : Type}

/-- The version of an entry that has none is recorded as the store answers it:
there is no other version that it could be in conflict with. -/
theorem save_eq_of_unversioned
    {registry : Registry} {identity : Identity} {known : Metadata}
    (found : registry.find? identity = some known) (unversioned : known.version = none)
    (store : DefinitionStore τ) (payload : Payload) (state : τ) :
    registry.save store identity payload state =
      match store.save known payload state with
      | (.error failure, later) => (.error failure, registry, later)
      | (.ok version, later) =>
          (.ok version, registry.put identity (known.withVersion version), later) := by
  simp only [save, found, unversioned]
  rcases store.save known payload state with ⟨failure | version, later⟩
  · rfl
  · simp only [recordVersion_of_unversioned found unversioned]

/-- A load writes for the identity of what the store answers, whatever it was
asked for. -/
theorem load_growsAt
    (store : DefinitionStore τ) (identity : Identity) (registry : Registry)
    (state : τ) :
    ∃ written, registry.GrowsAt written (load store identity registry state).2.1 := by
  unfold load
  dsimp only
  split
  · exact ⟨identity, .unchanged registry identity⟩
  · split
    · exact ⟨identity, .unchanged registry identity⟩
    · exact ⟨identity, .unchanged registry identity⟩
    · rename_i stored _ _
      exact ⟨stored.identity, adopt_growsAt stored registry⟩

theorem save_growsAt
    (store : DefinitionStore τ) (identity : Identity) (payload : Payload)
    {registry : Registry} (tidy : registry.Tidy) (state : τ) :
    registry.GrowsAt identity (save store identity payload registry state).2.1 := by
  unfold save
  split
  · exact .unchanged registry identity
  · split
    · exact .unchanged registry identity
    · split
      · exact .unchanged registry identity
      · rename_i version _ _
        have recorded := recordVersion_growsAt identity version tidy
        split
        · rename_i outcome
          rw [outcome] at recorded
          exact recorded
        · rename_i outcome
          rw [outcome] at recorded
          exact recorded

end Assay.Registry
