import Assay.Proofs.Files.Medium
import Assay.Proofs.Identity
import Assay.Proofs.Store.Directory

/-!
# Interrupted saves

A save makes a folder, reads the version that is there, writes the metadata and writes
the payload.  It stops at the first of these operations that fails and takes nothing
back.  What a store answers afterwards depends on how far it got.
-/

namespace Assay.Directory

/-! ## Where a save stops -/

section

variable {σ : Type}

/-- The operation at which a save fails, after those before it have succeeded. -/
inductive SaveStops (files : FileSystem σ) (root : Path) (metadata : Metadata)
    (content : Payload) (state : σ) : CallFailure → σ → Prop where
  | makingFolder {error : FileError} {later : σ}
      (failed : files.makeFolders (entryFolder root metadata.identity) state =
        (.error error, later)) :
      SaveStops files root metadata content state (.refused (.io error.message)) later
  | readingMetadata {failure : CallFailure} {made later : σ}
      (created : files.makeFolders (entryFolder root metadata.identity) state =
        (.ok (), made))
      (failed : readMetadata files (metadataFile (entryFolder root metadata.identity)) made =
        (.error failure, later)) :
      SaveStops files root metadata content state failure later
  | writingMetadata {error : FileError} {previous : Option Metadata} {made known later : σ}
      (created : files.makeFolders (entryFolder root metadata.identity) state =
        (.ok (), made))
      (found : readMetadata files (metadataFile (entryFolder root metadata.identity)) made =
        (.ok previous, known))
      (failed : files.write (metadataFile (entryFolder root metadata.identity))
        (encodeMetadata (metadata.withVersion (nextVersion previous))) known =
          (.error error, later)) :
      SaveStops files root metadata content state (.refused (.io error.message)) later
  | writingPayload {error : FileError} {previous : Option Metadata}
      {made known written later : σ}
      (created : files.makeFolders (entryFolder root metadata.identity) state =
        (.ok (), made))
      (found : readMetadata files (metadataFile (entryFolder root metadata.identity)) made =
        (.ok previous, known))
      (replaced : files.write (metadataFile (entryFolder root metadata.identity))
        (encodeMetadata (metadata.withVersion (nextVersion previous))) known =
          (.ok (), written))
      (failed : files.write (payloadFile (entryFolder root metadata.identity)) content written =
        (.error error, later)) :
      SaveStops files root metadata content state (.refused (.io error.message)) later

theorem save_eq_error
    {files : FileSystem σ} {root : Path} {metadata : Metadata} {content : Payload}
    {state later : σ} {failure : CallFailure}
    (failed : save files root metadata content state = (.error failure, later)) :
    SaveStops files root metadata content state failure later := by
  rw [save] at failed
  rcases created : files.makeFolders (entryFolder root metadata.identity) state with
    ⟨error | _, made⟩
  · simp only [created, refuseFile, refuse, Prod.mk.injEq, Except.error.injEq] at failed
    obtain ⟨rfl, rfl⟩ := failed
    exact .makingFolder created
  rcases found : readMetadata files (metadataFile (entryFolder root metadata.identity)) made
    with ⟨other | previous, known⟩
  · simp only [created, found, Prod.mk.injEq, Except.error.injEq] at failed
    obtain ⟨rfl, rfl⟩ := failed
    exact .readingMetadata created found
  rcases replaced : files.write (metadataFile (entryFolder root metadata.identity))
      (encodeMetadata (metadata.withVersion (nextVersion previous))) known with
    ⟨error | _, written⟩
  · simp only [created, found, replaced, refuseFile, refuse, Prod.mk.injEq,
      Except.error.injEq] at failed
    obtain ⟨rfl, rfl⟩ := failed
    exact .writingMetadata created found replaced
  rcases stored : files.write (payloadFile (entryFolder root metadata.identity)) content
      written with ⟨error | _, last⟩
  · simp only [created, found, replaced, stored, refuseFile, refuse, Prod.mk.injEq,
      Except.error.injEq] at failed
    obtain ⟨rfl, rfl⟩ := failed
    exact .writingPayload created found replaced stored
  · simp [created, found, replaced, stored] at failed

end

/-! ## Answers before and after -/

section

variable {σ : Type}

/-- What it comes to when a file of metadata is read. -/
def metadataIn : Except FileError ByteArray → Except CallFailure (Option Metadata)
  | .error .notFound => .ok none
  | .error error => .error (.refused (.io error.message))
  | .ok bytes =>
      match decodeMetadata bytes with
      | .ok metadata => .ok (some metadata)
      | .error error => .error (.refused error)

/-- Only a file that is missing holds no metadata. -/
theorem metadataIn_eq_none_iff (read : Except FileError ByteArray) :
    metadataIn read = .ok none ↔ read = .error .notFound := by
  rcases read with error | bytes
  · cases error <;> simp [metadataIn]
  · simp only [metadataIn]
    cases decodeMetadata bytes <;> simp

theorem readMetadata_eq_metadataIn (files : FileSystem σ) (path : Path) (state : σ) :
    readMetadata files path state =
      (metadataIn (files.read path state).1, (files.read path state).2) := by
  rw [readMetadata]
  rcases files.read path state with ⟨error | bytes, later⟩
  · cases error <;> rfl
  · dsimp only [metadataIn]
    cases decodeMetadata bytes <;> rfl

/-- What it comes to when a payload is read. -/
def payloadIn : Except FileError ByteArray → Except CallFailure (Option Payload)
  | .error .notFound => .ok none
  | .error error => .error (.refused (.io error.message))
  | .ok bytes => .ok (some bytes)

theorem payload_eq_payloadIn
    (files : FileSystem σ) (root : Path) (identity : Identity) (state : σ) :
    payload files root identity state =
      (payloadIn (files.read (payloadFile (entryFolder root identity)) state).1,
        (files.read (payloadFile (entryFolder root identity)) state).2) := by
  rw [payload]
  rcases files.read (payloadFile (entryFolder root identity)) state with ⟨error | bytes, later⟩
  · cases error <;> rfl
  · rfl

end

variable {volume later : Volume} {root : Path} {home : Location} {identity saved : Identity}
  {names : List String}

/-- An identity that a folder can have as its name. -/
structure Nameable (identity : Identity) : Prop where
  notDot : identity.text ≠ "."
  notLong : identity.text.utf8ByteSize ≤ Volume.longestName

theorem Nameable.enterable
    (nameable : Nameable identity) (noNul : '\x00' ∉ identity.text.toList) :
    Path.Enterable identity.text where
  notIdle := Identity.isIdleName_text_of_ne nameable.notDot
  notOuter := identity.text_ne_outer
  notLong := nameable.notLong
  noNul := noNul

theorem Nameable.enterable_of_usable
    (nameable : Nameable identity) (usable : (entryFolder root identity).Usable) :
    Path.Enterable identity.text :=
  nameable.enterable (Volume.noNul_of_enter usable)

theorem leadsTo_entryFolder
    (leads : volume.LeadsTo root home) (nameable : Nameable identity)
    (usable : (entryFolder root identity).Usable) :
    volume.LeadsTo (entryFolder root identity) (entryPlace home identity) := by
  apply Volume.LeadsTo.enter (nameable.enterable_of_usable usable)
  exact .enter enterable_definitions leads

/-- A store below a root answers for a definition as it did before. -/
structure SameAnswers (root : Path) (identity : Identity) (volume later : Volume) : Prop where
  load : (load Volume.files root identity later).1 = (load Volume.files root identity volume).1
  payload : (payload Volume.files root identity later).1 =
    (payload Volume.files root identity volume).1

/-- Changes for one definition are changes for no other one. -/
theorem read_of_changes
    {name : String}
    (changes : volume.ChangesWithin later (entryPlace home saved) names)
    (grounded : volume.Grounded) (leads : volume.LeadsTo root home)
    (nameable : Nameable identity) (enterable : Path.Enterable name)
    (spared : identity = saved → name ∉ names) :
    later.read ((entryFolder root identity).enter name) =
      volume.read ((entryFolder root identity).enter name) := by
  apply changes.read_enter grounded (leadsTo_entryFolder leads nameable)
  · simp
  · exact enterable
  · intro inside
    have longer := inside.length_le
    simp at longer
  · intro other member same
    obtain ⟨entries, names⟩ := List.append_inj' same rfl
    obtain ⟨_, texts⟩ := List.append_inj' entries rfl
    obtain rfl : name = other := List.singleton_inj.mp names
    apply spared ?_ member
    apply Classical.byContradiction
    intro different
    exact different (Identity.text_injective (List.singleton_inj.mp texts))

theorem load_of_changes
    (changes : volume.ChangesWithin later (entryPlace home saved) names)
    (grounded : volume.Grounded) (leads : volume.LeadsTo root home)
    (nameable : Nameable identity) (spared : identity = saved → "meta.json" ∉ names) :
    (load Volume.files root identity later).1 = (load Volume.files root identity volume).1 := by
  have same := read_of_changes changes grounded leads nameable enterable_metadata spared
  rw [load, load, readMetadata_eq_metadataIn, readMetadata_eq_metadataIn]
  exact congrArg metadataIn same

theorem payload_of_changes
    (changes : volume.ChangesWithin later (entryPlace home saved) names)
    (grounded : volume.Grounded) (leads : volume.LeadsTo root home)
    (nameable : Nameable identity) (spared : identity = saved → "data.bin" ∉ names) :
    (payload Volume.files root identity later).1 =
      (payload Volume.files root identity volume).1 := by
  have same := read_of_changes changes grounded leads nameable enterable_payload spared
  rw [payload_eq_payloadIn, payload_eq_payloadIn]
  exact congrArg payloadIn same

theorem sameAnswers_of_changes
    (changes : volume.ChangesWithin later (entryPlace home saved) names)
    (grounded : volume.Grounded) (leads : volume.LeadsTo root home)
    (nameable : Nameable identity)
    (spared : identity = saved → "meta.json" ∉ names ∧ "data.bin" ∉ names) :
    SameAnswers root identity volume later where
  load := load_of_changes changes grounded leads nameable fun same => (spared same).1
  payload := payload_of_changes changes grounded leads nameable fun same => (spared same).2

/-! ## Saves on a medium -/

variable {medium known final : Medium} {metadata : Metadata} {content : Payload}
  {previous : Option Metadata} {failure : CallFailure}

theorem makeFolders_entryFolder
    {answer : Except FileError Unit} {made : Medium}
    (grounded : medium.volume.Grounded) (leads : medium.volume.LeadsTo root home)
    (nameable : Nameable identity)
    (created : Medium.files.makeFolders (entryFolder root identity) medium = (answer, made)) :
    made.operations = medium.operations + 1 ∧
      made.faults = medium.faults ∧
      medium.volume.ChangesWithin made.volume (entryPlace home identity) [] ∧
      (answer = .ok () → made.volume.node? (entryPlace home identity) = some .folder) := by
  have leadsThere (_ : (definitionsFolder root).Usable) :
      medium.volume.LeadsTo (definitionsFolder root) (definitionsPlace home) :=
    .enter enterable_definitions leads
  obtain ⟨given, outer, make, inside, free, all⟩ := medium.makeFolders_enter grounded
    leadsThere fun usable => nameable.enterable_of_usable usable
  obtain ⟨rfl, rfl⟩ := Prod.mk.inj (make.symm.trans created)
  refine ⟨rfl, rfl, .addFolders grounded free inside, ?_⟩
  intro success
  obtain rfl := all success
  exact Volume.node?_addFolders_self free

theorem readMetadata_medium
    {path : Path} {answer : Except CallFailure (Option Metadata)}
    (read : readMetadata Medium.files path medium = (answer, known)) :
    known = medium.after medium.volume ∧
      ∀ found, answer = .ok found →
        (readMetadata Volume.files path medium.volume).1 = .ok found := by
  obtain ⟨given, inquired, same⟩ := Medium.inquire_eq (fun volume => volume.read path) medium
  have readHere : Medium.files.read path medium = (given, medium.after medium.volume) :=
    inquired
  rw [readMetadata_eq_metadataIn, readHere] at read
  obtain ⟨rfl, rfl⟩ := Prod.mk.inj read
  refine ⟨rfl, ?_⟩
  intro found answered
  rw [readMetadata_eq_metadataIn]
  rcases same with rfl | rfl
  · exact answered
  · contradiction

/-- A medium on which the folder of a definition is there and its metadata has been
read. -/
structure Prepared (medium : Medium) (root : Path) (home : Location) (identity : Identity)
    (previous : Option Metadata) (known : Medium) : Prop where
  operations : known.operations = medium.operations + 2
  faults : known.faults = medium.faults
  changes : medium.volume.ChangesWithin known.volume (entryPlace home identity) []
  folder : known.volume.node? (entryPlace home identity) = some .folder
  leads : known.volume.LeadsTo root home
  answered : (load Volume.files root identity medium.volume).1 = .ok previous

theorem Prepared.tearsNothing
    (ready : Prepared medium root home identity previous known) (further : Nat)
    (whole : medium.TearsNothing (medium.operations + 2 + further)) :
    known.TearsNothing (known.operations + further) := by
  rw [ready.operations, Medium.TearsNothing, ready.faults]
  exact whole

theorem prepared
    {made : Medium}
    (grounded : medium.volume.Grounded) (leads : medium.volume.LeadsTo root home)
    (nameable : Nameable identity)
    (created : Medium.files.makeFolders (entryFolder root identity) medium = (.ok (), made))
    (found : readMetadata Medium.files (metadataFile (entryFolder root identity)) made =
      (.ok previous, known)) :
    Prepared medium root home identity previous known := by
  obtain ⟨operations, faults, changes, folder⟩ :=
    makeFolders_entryFolder grounded leads nameable created
  obtain ⟨rfl, answered⟩ := readMetadata_medium found
  refine ⟨congrArg (· + 1) operations, faults, changes, folder rfl,
    changes.keeps.leadsTo leads, ?_⟩
  rw [← load_of_changes changes grounded leads nameable fun _ => List.not_mem_nil]
  exact answered previous rfl

/-- A file of the definition is written on a medium. -/
theorem write_entry
    {name : String}
    (grounded : medium.volume.Grounded) (leads : medium.volume.LeadsTo root home)
    (nameable : Nameable identity)
    (folder : medium.volume.node? (entryPlace home identity) = some .folder)
    (enterable : Path.Enterable name) (content : ByteArray)
    {answer : Except FileError Unit}
    (written : Medium.files.write ((entryFolder root identity).enter name) content medium =
      (answer, final)) :
    ∃ left, final = medium.after left ∧
      medium.volume.ChangesWithin left (entryPlace home identity) [name] ∧
      medium.WriteLeaves ((entryFolder root identity).enter name)
        (entryPlace home identity ++ [name]) content answer left := by
  obtain ⟨given, left, write, leaves⟩ := medium.write_enter grounded
    (leadsTo_entryFolder leads nameable) folder enterable content
  obtain ⟨rfl, rfl⟩ := Prod.mk.inj (write.symm.trans written)
  exact ⟨left, rfl, leaves.changes grounded folder, leaves⟩

/-- The metadata that was written is loaded. -/
theorem load_of_written
    {written : ByteArray}
    (grounded : volume.Grounded) (leads : volume.LeadsTo root home)
    (nameable : Nameable identity)
    (usable : (metadataFile (entryFolder root identity)).Usable)
    (folder : volume.node? (entryPlace home identity) = some .folder)
    (file : volume.node? (metadataPlace home identity) = some (.file written)) :
    (load Volume.files root identity volume).1 = metadataIn (.ok written) := by
  have read := Volume.read_enter
    (leadsTo_entryFolder leads nameable (Volume.usable_of_enter usable)) grounded
    (grounded.free_of_folder folder) enterable_metadata usable.short
  simp only [file] at read
  rw [load, readMetadata_eq_metadataIn]
  exact congrArg metadataIn read

/-- A save that fails leaves the answers for all other definitions as they were,
whichever of its operations fails and whatever that leaves.  If it fails while it makes
the folder or reads the version that is there, the answers for its own definition are
as they were, too.  If writing the metadata fails, the payload is as it was, and so is
the metadata unless a part of it has been written.  If writing the payload fails, the
metadata has been replaced and is not put back, and the payload is as it was unless a
part of it has been written. -/
theorem save_stops_without_undoing
    (grounded : medium.volume.Grounded) (leads : medium.volume.LeadsTo root home)
    (nameable : Nameable metadata.identity)
    (failed : save Medium.files root metadata content medium = (.error failure, final)) :
    (∀ identity, Nameable identity → identity ≠ metadata.identity →
      SameAnswers root identity medium.volume final.volume) ∧
    ((final.operations = medium.operations + 1 ∨ final.operations = medium.operations + 2) ∧
        SameAnswers root metadata.identity medium.volume final.volume ∨
      final.operations = medium.operations + 3 ∧
        (payload Volume.files root metadata.identity final.volume).1 =
          (payload Volume.files root metadata.identity medium.volume).1 ∧
        (medium.TearsNothing (medium.operations + 2) →
          SameAnswers root metadata.identity medium.volume final.volume) ∨
      final.operations = medium.operations + 4 ∧
        (∃ previous,
          (load Volume.files root metadata.identity medium.volume).1 = .ok previous ∧
            (load Volume.files root metadata.identity final.volume).1 =
              metadataIn (.ok (encodeMetadata
                (metadata.withVersion (nextVersion previous))))) ∧
        (medium.TearsNothing (medium.operations + 3) →
          (payload Volume.files root metadata.identity final.volume).1 =
            (payload Volume.files root metadata.identity medium.volume).1)) := by
  have others {names : List String}
      (changes : medium.volume.ChangesWithin final.volume
        (entryPlace home metadata.identity) names) :
      ∀ identity, Nameable identity → identity ≠ metadata.identity →
        SameAnswers root identity medium.volume final.volume := by
    intro identity otherNameable different
    apply sameAnswers_of_changes changes grounded leads otherNameable
    intro same
    contradiction
  have unwritten {later : Volume}
      (changes : medium.volume.ChangesWithin later (entryPlace home metadata.identity) []) :
      SameAnswers root metadata.identity medium.volume later := by
    apply sameAnswers_of_changes changes grounded leads nameable
    intro _
    exact ⟨List.not_mem_nil, List.not_mem_nil⟩
  cases save_eq_error failed with
  | makingFolder stopped =>
      obtain ⟨operations, _, changes, _⟩ :=
        makeFolders_entryFolder grounded leads nameable stopped
      exact ⟨others changes, .inl ⟨.inl operations, unwritten changes⟩⟩
  | readingMetadata created stopped =>
      obtain ⟨operations, _, changes, _⟩ :=
        makeFolders_entryFolder grounded leads nameable created
      obtain ⟨rfl, _⟩ := readMetadata_medium stopped
      exact ⟨others changes, .inl ⟨.inr (congrArg (· + 1) operations), unwritten changes⟩⟩
  | writingMetadata created found stopped =>
      have ready := prepared grounded leads nameable created found
      obtain ⟨left, rfl, written, leaves⟩ := write_entry ready.changes.grounded ready.leads
        nameable ready.folder enterable_metadata _ stopped
      have changes := ready.changes.trans written
      refine ⟨others changes, .inr (.inl ⟨congrArg (· + 1) ready.operations, ?_, ?_⟩)⟩
      · apply payload_of_changes changes grounded leads nameable
        simp
      · intro whole
        have unchanged := leaves.unchanged_of_error (ready.tearsNothing 0 whole)
        exact unwritten (unchanged ▸ ready.changes)
  | @writingPayload _ _ _ known _ _ created found replaced stopped =>
      have ready := prepared grounded leads nameable created found
      obtain ⟨kept, rfl, metadataWritten, leaves⟩ := write_entry ready.changes.grounded
        ready.leads nameable ready.folder enterable_metadata _ replaced
      have keptLeads := metadataWritten.keeps.leadsTo ready.leads
      have keptFolder := metadataWritten.keeps.folder _ ready.folder
      obtain ⟨left, rfl, payloadWritten, payloadLeaves⟩ := write_entry
        metadataWritten.grounded keptLeads nameable keptFolder enterable_payload content stopped
      have metadataChanges := ready.changes.trans metadataWritten
      refine ⟨others (metadataChanges.trans payloadWritten),
        .inr (.inr ⟨congrArg (· + 2) ready.operations, ⟨_, ready.answered, ?_⟩, ?_⟩)⟩
      · have spared := load_of_changes payloadWritten metadataWritten.grounded keptLeads
          nameable (by simp)
        cases leaves with
        | written usable noFolder =>
            have file := Volume.node?_put_self known.volume
              (entryPlace home metadata.identity) "meta.json"
            exact spared.trans (load_of_written metadataWritten.grounded keptLeads nameable
              usable keptFolder (file _))
      · intro whole
        obtain rfl : left = kept :=
          payloadLeaves.unchanged_of_error (ready.tearsNothing 1 whole)
        apply payload_of_changes metadataChanges grounded leads nameable
        simp

/-- The root of a volume, as the root of a store. -/
def top : Path := ⟨true, []⟩

/-- A definition whose folder has a folder where its payload is to be written. -/
def obstructed : Volume where
  nodes := [(["tests"], .folder), (["tests", "within-tolerance"], .folder),
    (["tests", "within-tolerance", "data.bin"], .folder)]
  working := []

/-- The metadata is written before the payload turns out to be a folder. -/
theorem save_stops_obstructed :
    let tolerance := Metadata.withinTolerance
    ∃ final,
      save Medium.files top tolerance ⟨#[1]⟩ (.sound obstructed) =
          (.error (.refused (.io FileError.isAFolder.message)), final) ∧
        (load Volume.files top tolerance.identity obstructed).1 = .ok none ∧
        (load Volume.files top tolerance.identity final.volume).1 =
          metadataIn (.ok (encodeMetadata (tolerance.withVersion (nextVersion none)))) ∧
        (payload Volume.files top tolerance.identity final.volume).1 =
          (payload Volume.files top tolerance.identity obstructed).1 ∧
        SameAnswers top ⟨"equality", by decide⟩ obstructed final.volume := by
  have grounded : obstructed.Grounded := Volume.grounded_of_nodes (by decide)
  have leads : obstructed.LeadsTo top [] := .there rfl rfl
  have failed : save Medium.files top .withinTolerance ⟨#[1]⟩ (.sound obstructed) =
      (.error (.refused (.io FileError.isAFolder.message)),
        ⟨obstructed.put ["tests", "within-tolerance", "meta.json"]
          (.file (encodeMetadata (Metadata.withinTolerance.withVersion (nextVersion none)))),
          fun _ => none, 4⟩) := rfl
  have unknown :
      (load Volume.files top Metadata.withinTolerance.identity obstructed).1 = .ok none := rfl
  obtain ⟨others, stages⟩ :=
    save_stops_without_undoing grounded leads ⟨by decide, by decide⟩ failed
  have spared := others ⟨"equality", by decide⟩ ⟨by decide, by decide⟩ (by decide)
  rcases stages with ⟨first | second, _⟩ | ⟨third, _⟩ | ⟨_, ⟨previous, before, after⟩, whole⟩
  · contradiction
  · contradiction
  · contradiction
  · obtain rfl : none = previous := Except.ok.inj (unknown.symm.trans before)
    exact ⟨_, failed, unknown, after, whole (Medium.tearsNothing_sound obstructed 3), spared⟩

/-! ## Saves that are not atomic -/

/-- A save that leaves all answers as they were, should it fail. -/
def SaveIsAtomic (root : Path) (metadata : Metadata) (content : Payload) (medium : Medium) :
    Prop :=
  ∀ failure final, save Medium.files root metadata content medium = (.error failure, final) →
    ∀ identity, SameAnswers root identity medium.volume final.volume

theorem not_saveIsAtomic
    (identity : Identity)
    (failed : save Medium.files root metadata content medium = (.error failure, final))
    (missing : medium.volume.read (metadataFile (entryFolder root identity)) =
      .error .notFound)
    (found : final.volume.read (metadataFile (entryFolder root identity)) ≠
      .error .notFound) :
    ¬SaveIsAtomic root metadata content medium := by
  intro atomic
  apply found
  have same := (atomic failure final failed identity).load
  rw [load, load, readMetadata_eq_metadataIn, readMetadata_eq_metadataIn] at same
  apply (metadataIn_eq_none_iff _).mp
  exact same.trans (congrArg metadataIn missing)

/-- A name that is too long is refused in the folder of the definitions, but is not
even looked up before that folder is there. -/
theorem not_saveIsAtomic_of_long
    (grounded : volume.Grounded) (leads : volume.LeadsTo root home)
    (free : volume.Free (definitionsPlace home))
    (missing : volume.node? (definitionsPlace home) = none)
    (overlong : Volume.Overlong metadata.identity.text)
    (usable : (metadataFile (entryFolder root metadata.identity)).Usable)
    (content : Payload) : ¬SaveIsAtomic root metadata content (.sound volume) := by
  have entryUsable : (entryFolder root metadata.identity).Usable :=
    Volume.usable_of_enter usable
  have leadsDefinitions : volume.LeadsTo (definitionsFolder root) (definitionsPlace home) :=
    .enter enterable_definitions leads
  have made : volume.makeFolders (entryFolder root metadata.identity) =
      (.error .nameTooLong, volume.addFolders (definitionsPlace home)) :=
    Volume.makeFolders_enter_of_long leadsDefinitions grounded free overlong entryUsable
  have failed : save Medium.files root metadata content (.sound volume) =
      (.error (.refused (.io FileError.nameTooLong.message)),
        (Medium.sound volume).after (volume.addFolders (definitionsPlace home))) := by
    have created : Medium.files.makeFolders (entryFolder root metadata.identity)
        (.sound volume) = (.error .nameTooLong,
          (Medium.sound volume).after (volume.addFolders (definitionsPlace home))) := by
      simp only [Medium.files, Medium.change, Medium.fault?, Medium.sound, made]
    rw [save, created]
    rfl
  have notFound : volume.locate (entryFolder root metadata.identity) = .error .notFound :=
    leadsDefinitions.locate_enter_of_missing grounded free missing
      (Volume.noNul_of_enter entryUsable) entryUsable.short
  have tooLong : (volume.addFolders (definitionsPlace home)).locate
      (entryFolder root metadata.identity) = .error .nameTooLong :=
    ((Volume.keepsFolders_addFolders free).leadsTo leadsDefinitions).locate_enter_of_long
      (grounded.addFolders free) (Volume.node?_addFolders_self free) overlong entryUsable
  apply not_saveIsAtomic metadata.identity failed
  · exact Volume.read_enter_of_error notFound usable
  · intro absent
    have refused := Volume.read_enter_of_error tooLong usable
    exact absurd (refused.symm.trans absent) (by decide)

/-- A definition whose identity is the name of the files of payloads. -/
def misplaced : Volume where
  nodes := [(["tests"], .folder), (["tests", "data.bin"], .folder)]
  working := []

/-- An empty medium on which the third operation fails and leaves an empty file. -/
def torn : Medium where
  volume := .empty
  faults := fun operation => if operation = 2 then some ⟨0, some .empty⟩ else none
  operations := 0

/-- A medium whose first operation fails after it has made one folder. -/
def detour : Medium where
  volume :=
    { nodes := [(["tests"], .folder), (["tests", "equality"], .folder),
        (["tests", "equality", "meta.json"], .file .empty)]
      working := [] }
  faults := fun operation => if operation = 0 then some ⟨1, none⟩ else none
  operations := 0

theorem acceptable_long : Identity.isAcceptable (List.replicate 256 'x') = true := by
  decide +kernel

def longIdentity : Identity where
  text := String.ofList (List.replicate 256 'x')
  acceptable := (congrArg Identity.isAcceptable String.toList_ofList).trans acceptable_long

def oversized : Metadata := { Metadata.withinTolerance with identity := longIdentity }

theorem overlong_oversized : Volume.Overlong oversized.identity.text where
  notIdle := by decide +kernel
  notOuter := by decide +kernel
  long := by decide +kernel

theorem usable_oversized : (metadataFile (entryFolder top oversized.identity)).Usable where
  noNul := by
    have repeated : '\x00' ∉ oversized.identity.text.toList := by
      intro ended
      have member : '\x00' ∈ List.replicate 256 'x' :=
        (congrArg ('\x00' ∈ ·) String.toList_ofList).mp ended
      exact absurd (List.eq_of_mem_replicate member) (by decide)
    have named : (metadataFile (entryFolder top oversized.identity)).names =
        ["tests", oversized.identity.text, "meta.json"] := rfl
    rw [named]
    simp only [List.forall_mem_cons]
    exact ⟨by decide, repeated, by decide, List.forall_mem_nil _⟩
  short := by
    have size : oversized.identity.text.utf8ByteSize = 256 := by decide +kernel
    rw [metadataFile, entryFolder, definitionsFolder, Path.byteCount_enter,
      Path.byteCount_enter, Path.byteCount_enter, size]
    decide

theorem not_saveIsAtomic_oversized :
    ¬SaveIsAtomic top oversized ⟨#[1]⟩ (.sound .empty) := by
  have empty {place : Location} (inside : place ≠ []) : Volume.empty.node? place = none := by
    simp [Volume.node?, Volume.empty, inside]
  have grounded : Volume.empty.Grounded := by
    intro outer name node found
    rw [empty (by simp)] at found
    contradiction
  have free : Volume.empty.Free (definitionsPlace []) := by
    intro outer _ content found
    rcases Volume.root_or_mem_of_node? found with ⟨_, impossible⟩ | known
    · exact FileNode.noConfusion impossible
    · contradiction
  have leads : Volume.empty.LeadsTo top [] := .there rfl rfl
  exact not_saveIsAtomic_of_long grounded leads free (empty (by simp)) overlong_oversized
    usable_oversized ⟨#[1]⟩

/-- A failed save is not atomic: the metadata has been replaced if the payload cannot
be written (1), and it is lost if it cannot be written completely (2).  The folder of
the definitions has been made if an identity is too long for a folder (3).  The
identity `.` has its files beside the folders of other definitions (4).  Folders on the
way to a root can lead to another one (5). -/
theorem save_is_not_atomic :
    let tolerance := Metadata.withinTolerance
    ¬SaveIsAtomic top tolerance ⟨#[1]⟩ (.sound obstructed) ∧
      ¬SaveIsAtomic top tolerance ⟨#[1]⟩ torn ∧
      ¬SaveIsAtomic top oversized ⟨#[1]⟩ (.sound .empty) ∧
      ¬SaveIsAtomic top { tolerance with identity := ⟨".", by decide⟩ } ⟨#[1]⟩
        (.sound misplaced) ∧
      ¬SaveIsAtomic ⟨true, ["missing", ".."]⟩ tolerance ⟨#[1]⟩ detour := by
  refine ⟨?payload, ?metadata, not_saveIsAtomic_oversized, ?dot, ?root⟩
  case payload =>
    apply not_saveIsAtomic Metadata.withinTolerance.identity rfl rfl
    decide
  case metadata =>
    apply not_saveIsAtomic Metadata.withinTolerance.identity rfl rfl
    decide
  case dot =>
    apply not_saveIsAtomic ⟨"meta.json", by decide⟩ rfl rfl
    decide
  case root =>
    apply not_saveIsAtomic ⟨"equality", by decide⟩ rfl rfl
    decide

end Assay.Directory
