import Mathlib.Data.List.Basic
import Mathlib.Data.List.Induction
import Mathlib.Logic.Relation
import Assay.Proofs.Registry.Binding

/-!
# Tags of accepted declarations

Metadata has every declared tag once, in the order in which the tags are first declared.
A declaration that only repeats some of the tags of another one therefore has the same
metadata, and neither of the two is in the way of the other in a registry.
-/

namespace Assay

variable {σ τ : Type}

namespace Declaration

variable {seen kept left right : List String} {tag : String}

/-- The tags kept so far with one more, unless it is among them. -/
def keepTag (kept : List String) (tag : String) : List String :=
  if kept.contains tag then kept else kept ++ [tag]

theorem keepTag_of_mem (present : tag ∈ kept) : keepTag kept tag = kept := by
  simp [keepTag, present]

theorem keepTag_of_not_mem (absent : tag ∉ kept) : keepTag kept tag = kept ++ [tag] := by
  simp [keepTag, absent]

theorem foldl_keepTag
    (same : ∀ tag, tag ∈ seen ↔ tag ∈ kept) (tags : List String) :
    tags.foldl keepTag kept = kept ++ distinctAfter seen tags := by
  induction tags generalizing seen kept with
  | nil => simp [distinctAfter]
  | cons tag rest induction =>
      by_cases present : tag ∈ kept
      · have alreadySeen : tag ∈ seen := (same tag).mpr present
        simp [distinctAfter, keepTag_of_mem present, alreadySeen, induction same]
      · have fresh : tag ∉ seen := fun known => present ((same tag).mp known)
        have sameExtended : ∀ other, other ∈ tag :: seen ↔ other ∈ kept ++ [tag] := by
          intro other
          simp [same other, or_comm]
        simp [distinctAfter, keepTag_of_not_mem present, fresh, induction sameExtended]

/-- The distinct tags are accumulated from left to right, and every tag is looked for
among those that were accumulated before it. -/
theorem distinctTags_eq_foldl (tags : List String) :
    distinctTags tags = tags.foldl keepTag [] := by
  have same : ∀ tag : String, tag ∈ [] ↔ tag ∈ [] := fun _ => Iff.rfl
  exact (foldl_keepTag same tags).symm

theorem distinctTags_append (before after : List String) :
    distinctTags (before ++ after) = after.foldl keepTag (distinctTags before) := by
  simp only [distinctTags_eq_foldl, List.foldl_append]

theorem distinctTags_concat (tags : List String) (tag : String) :
    distinctTags (tags ++ [tag]) = keepTag (distinctTags tags) tag :=
  distinctTags_append tags [tag]

/-! ## What is kept -/

@[simp] theorem mem_keepTag {other : String} :
    other ∈ keepTag kept tag ↔ other ∈ kept ∨ other = tag := by
  by_cases present : tag ∈ kept
  · rw [keepTag_of_mem present]
    constructor
    · exact .inl
    · rintro (known | rfl)
      · exact known
      · exact present
  · simp [keepTag_of_not_mem present]

@[simp] theorem mem_distinctTags {tags : List String} :
    tag ∈ distinctTags tags ↔ tag ∈ tags := by
  induction tags using List.reverseRecOn with
  | nil => rfl
  | append_singleton tags last induction =>
      simp [distinctTags_concat, induction]

theorem distinctTags_concat_of_mem
    {tags : List String} (declared : tag ∈ tags) :
    distinctTags (tags ++ [tag]) = distinctTags tags := by
  rw [distinctTags_concat, keepTag_of_mem (mem_distinctTags.mpr declared)]

theorem distinctTags_concat_of_not_mem
    {tags : List String} (fresh : tag ∉ tags) :
    distinctTags (tags ++ [tag]) = distinctTags tags ++ [tag] := by
  rw [distinctTags_concat, keepTag_of_not_mem (mt mem_distinctTags.mp fresh)]

theorem distinctTags_nodup (tags : List String) : (distinctTags tags).Nodup := by
  induction tags using List.reverseRecOn with
  | nil => exact List.nodup_nil
  | append_singleton tags tag induction =>
      by_cases declared : tag ∈ tags
      · rwa [distinctTags_concat_of_mem declared]
      · rw [distinctTags_concat_of_not_mem declared, ← List.concat_eq_append]
        exact induction.concat (mt mem_distinctTags.mp declared)

/-- The tags are kept in the order of their first positions. -/
theorem distinctTags_in_order (tags : List String) :
    (distinctTags tags).Pairwise fun earlier later =>
      tags.idxOf earlier < tags.idxOf later := by
  induction tags using List.reverseRecOn with
  | nil => exact .nil
  | append_singleton tags tag induction =>
      -- A longer list has the tags of the shorter one where that one has them.
      have stillInOrder : (distinctTags tags).Pairwise fun earlier later =>
          (tags ++ [tag]).idxOf earlier < (tags ++ [tag]).idxOf later := by
        refine induction.imp_of_mem fun {earlier later} earlierKept laterKept inOrder => ?_
        rwa [List.idxOf_append_of_mem (mem_distinctTags.mp earlierKept),
          List.idxOf_append_of_mem (mem_distinctTags.mp laterKept)]
      by_cases declared : tag ∈ tags
      · rwa [distinctTags_concat_of_mem declared]
      · rw [distinctTags_concat_of_not_mem declared, List.pairwise_append]
        refine ⟨stillInOrder, List.pairwise_singleton _ _, ?_⟩
        intro earlier earlierKept last isLast
        obtain rfl := List.mem_singleton.mp isLast
        have known : earlier ∈ tags := mem_distinctTags.mp earlierKept
        rw [List.idxOf_append_of_mem known, List.idxOf_append_of_notMem declared]
        exact Nat.lt_add_right _ (List.idxOf_lt_length_of_mem known)

@[simp] theorem distinctTags_idem (tags : List String) :
    distinctTags (distinctTags tags) = distinctTags tags := by
  induction tags using List.reverseRecOn with
  | nil => rfl
  | append_singleton tags tag induction =>
      by_cases declared : tag ∈ tags
      · rw [distinctTags_concat_of_mem declared, induction]
      · have stillFresh : tag ∉ distinctTags tags := mt mem_distinctTags.mp declared
        rw [distinctTags_concat_of_not_mem declared, distinctTags_concat_of_not_mem stillFresh,
          induction]

example : distinctTags ["demo", "math", "demo"] = ["demo", "math"] := by decide

/-! ## Repetitions -/

/-- The second list of tags has one tag more, and has it earlier as well. -/
inductive Repeats : List String → List String → Prop where
  | again (before : List String) {tag : String} (after : List String) (declared : tag ∈ before) :
      Repeats (before ++ after) (before ++ tag :: after)

theorem Repeats.distinctTags_eq (repeats : Repeats left right) :
    distinctTags left = distinctTags right := by
  cases repeats with
  | again before after declared =>
      have kept := mem_distinctTags.mpr declared
      simp only [distinctTags_append, List.foldl_cons, keepTag_of_mem kept]

theorem Repeats.concat (repeats : Repeats left right) (tag : String) :
    Repeats (left ++ [tag]) (right ++ [tag]) := by
  cases repeats with
  | again before after declared => simpa using Repeats.again before (after ++ [tag]) declared

/-- Lists of tags that become one another by repetitions being made and unmade. -/
def SameTags : List String → List String → Prop := Relation.EqvGen Repeats

/-- The tags are those that are kept, up to repetitions. -/
theorem distinctTags_reaches (tags : List String) :
    Relation.ReflTransGen Repeats (distinctTags tags) tags := by
  induction tags using List.reverseRecOn with
  | nil => exact .refl
  | append_singleton tags tag induction =>
      by_cases declared : tag ∈ tags
      · rw [distinctTags_concat_of_mem declared]
        refine induction.tail ?_
        simpa using Repeats.again tags [] declared
      · rw [distinctTags_concat_of_not_mem declared]
        exact induction.lift (· ++ [tag]) fun _ _ repeats => repeats.concat tag

theorem sameTags_iff : SameTags left right ↔ distinctTags left = distinctTags right := by
  constructor
  · intro same
    induction same with
    | rel _ _ repeats => exact repeats.distinctTags_eq
    | refl => rfl
    | symm _ _ _ induction => exact induction.symm
    | trans _ _ _ _ _ first second => exact first.trans second
  · intro same
    have leftKept : SameTags (distinctTags left) left :=
      Relation.EqvGen.reflTransGen_le_eqvGen _ _ _ (distinctTags_reaches left)
    have rightKept : SameTags (distinctTags right) right :=
      Relation.EqvGen.reflTransGen_le_eqvGen _ _ _ (distinctTags_reaches right)
    rw [← same] at rightKept
    exact (leftKept.symm _ _).trans _ _ _ rightKept

/-- The declarations agree on everything but how often they repeat their tags. -/
def AgreesUpToRepetition (declaration other : Declaration) : Prop :=
  SameTags declaration.tags other.tags ∧ other = { declaration with tags := other.tags }

variable {declaration other : Declaration} {metadata : Metadata}

/-- A repeated tag neither makes a declaration unacceptable nor shows in its metadata. -/
theorem AgreesUpToRepetition.toMetadata_eq
    (agrees : declaration.AgreesUpToRepetition other) :
    other.toMetadata = declaration.toMetadata := by
  obtain ⟨sameTags, sameRest⟩ := agrees
  have sameMetadata : other.metadata = declaration.metadata := by
    rw [sameRest]
    simp only [Declaration.metadata, Declaration.identity, sameTags_iff.mp sameTags]
  unfold toMetadata
  rw [sameMetadata, sameRest]
  rfl

end Declaration

namespace Definition

variable {first second : Definition σ} {registry : Registry} {candidate : Metadata}

/-- A definition gets the entry that any other one with its metadata would get. -/
theorem bind_eq_of_toMetadata_eq
    (same : second.declaration.toMetadata = first.declaration.toMetadata)
    (registry : Registry) :
    second.bind registry =
      ((first.bind registry).1.map fun bound => { bound with logic := second.logic },
        (first.bind registry).2) := by
  unfold bind
  rw [same]
  cases first.declaration.toMetadata with
  | error problem => rfl
  | ok candidate =>
      simp only
      split <;> rfl

/-- Once a definition is bound, one with the same metadata gets its entry, whatever is
done with the registry in between. -/
theorem bind_after_bind
    (accepted : first.declaration.toMetadata = .ok candidate)
    (otherAccepted : second.declaration.toMetadata = .ok candidate)
    (tidy : registry.Tidy) {bound : Instance σ}
    (success : (first.bind registry).1 = .ok bound)
    (later : List (RegistryOperation σ τ)) (state : τ) :
    let final := (RegistryOperation.performAll later (first.bind registry).2 state).1
    ∃ again, second.bind final = (.ok again, final) ∧
      again.metadata.sameDefinition bound.metadata = true := by
  intro final
  have room : registry.HasRoomFor candidate := by
    by_contra noRoom
    rw [bind_of_not_hasRoomFor accepted noRoom] at success
    contradiction
  obtain ⟨entry, entryBound, found, same, _⟩ := bind_of_hasRoomFor accepted room
  obtain rfl : ⟨entry, first.logic, .empty⟩ = bound :=
    Except.ok.inj (entryBound.symm.trans success)
  have boundTidy : (first.bind registry).2.Tidy := by
    obtain ⟨_, writes, _⟩ := first.bind_growsAt registry
    exact writes.tidy tidy
  obtain ⟨_, writes⟩ := RegistryOperation.performAll_grows later boundTidy state
  obtain ⟨kept, keptFound, keptSame, _⟩ := writes.find?_of_known found
  have known := bind_eq_of_known otherAccepted keptFound
    (Metadata.sameDefinition_trans keptSame same)
  exact ⟨_, known, keptSame⟩

end Definition

namespace Declaration

/-- The metadata of an accepted declaration has exactly the declared tags, each once and
in the order in which they are first declared, and it has the parameters as they are.
Keeping the distinct tags of distinct tags changes nothing, and two lists of tags have the
same distinct ones exactly if they are the same up to repetitions.  A declaration that
agrees with the accepted one up to repetitions has the same metadata: in every registry a
definition of either is bound or refused as one of the other would be, and once the one is
bound the other one gets its entry. -/
theorem toMetadata_keeps_first_tags
    {declaration : Declaration} {metadata : Metadata}
    (accepted : declaration.toMetadata = .ok metadata) :
    metadata.tags.Nodup ∧
      (∀ tag, tag ∈ metadata.tags ↔ tag ∈ declaration.tags) ∧
      (metadata.tags.Pairwise fun earlier later =>
        declaration.tags.idxOf earlier < declaration.tags.idxOf later) ∧
      metadata.parameters = declaration.parameters ∧
      (∀ tags, distinctTags (distinctTags tags) = distinctTags tags) ∧
      (∀ left right, SameTags left right ↔ distinctTags left = distinctTags right) ∧
      ∀ other, declaration.AgreesUpToRepetition other →
        other.toMetadata = .ok metadata ∧
          ∀ first second : Definition σ,
            first.declaration = declaration → second.declaration = other →
              ∀ (earlier : List (RegistryOperation σ τ)) (origin : τ),
                let reached := (RegistryOperation.performAll earlier .empty origin).1
                second.bind reached =
                    ((first.bind reached).1.map fun bound =>
                      { bound with logic := second.logic }, (first.bind reached).2) ∧
                  (reached.find? metadata.identity = none →
                    ∃ bound, (first.bind reached).1 = .ok bound) ∧
                  ∀ bound, (first.bind reached).1 = .ok bound →
                    ∀ (later : List (RegistryOperation σ τ)) (state : τ),
                      let final :=
                        (RegistryOperation.performAll later (first.bind reached).2 state).1
                      ∃ again, second.bind final = (.ok again, final) ∧
                        again.metadata.sameDefinition bound.metadata = true := by
  obtain rfl : metadata = declaration.metadata := (toMetadata_eq_ok accepted).2
  refine ⟨distinctTags_nodup declaration.tags, fun tag => mem_distinctTags,
    distinctTags_in_order declaration.tags, rfl, distinctTags_idem,
    fun left right => sameTags_iff, ?_⟩
  intro other agrees
  have otherAccepted : other.toMetadata = .ok declaration.metadata :=
    agrees.toMetadata_eq.trans accepted
  refine ⟨otherAccepted, ?_⟩
  rintro first second rfl rfl earlier origin reached
  refine ⟨Definition.bind_eq_of_toMetadata_eq agrees.toMetadata_eq reached, ?_, ?_⟩
  · intro unknown
    exact ⟨_, congrArg Prod.fst (Definition.bind_eq_of_unknown accepted unknown)⟩
  · intro bound success
    exact Definition.bind_after_bind accepted otherAccepted
      (RegistryOperation.tidy_performAll earlier origin) success

/-- The declaration of `atMost` has its only tag twice.  Without the second one it is bound
to the same entry, also if a version is recorded in between. -/
theorem toMetadata_keeps_tag_of_atMost :
    let declaration := RegistryOperation.atMost.declaration
    let once : Definition Nat := ⟨{ declaration with tags := ["numeric"] }, fun _ calls =>
      (.ok (.verdict false), calls)⟩
    let recorded : List (RegistryOperation Nat Unit) :=
      [.recordVersion declaration.identity 2]
    let reached := (RegistryOperation.atMost.bind .empty).2
    let final := (RegistryOperation.performAll recorded reached ()).1
    declaration.toMetadata = .ok declaration.metadata ∧
      declaration.metadata.tags = ["numeric"] ∧
      once.declaration.toMetadata = .ok declaration.metadata ∧
      ∃ again, once.bind final = (.ok again, final) := by
  intro declaration once recorded reached final
  have accepted : RegistryOperation.atMost.declaration.toMetadata =
      .ok RegistryOperation.atMost.declaration.metadata := rfl
  have agrees : declaration.AgreesUpToRepetition once.declaration :=
    ⟨.symm _ _ (.rel _ _ (.again ["numeric"] [] (List.mem_singleton_self _))), rfl⟩
  obtain ⟨_, _, _, _, _, _, repetitions⟩ :=
    @toMetadata_keeps_first_tags Nat Unit declaration declaration.metadata accepted
  obtain ⟨sameMetadata, definitions⟩ := repetitions once.declaration agrees
  obtain ⟨_, free, lasts⟩ := definitions RegistryOperation.atMost once rfl rfl [] ()
  obtain ⟨bound, success⟩ := free rfl
  obtain ⟨again, rebound, _⟩ := lasts bound success recorded ()
  exact ⟨accepted, rfl, sameMetadata, again, rebound⟩

end Declaration

end Assay
