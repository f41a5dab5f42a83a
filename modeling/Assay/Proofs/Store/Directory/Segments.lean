import Assay.Proofs.Files.Volume.Growth
import Assay.Proofs.Files.Volume.Targets
import Assay.Proofs.Store.Directory.History
import Assay.Proofs.Store.Directory.Interruption

/-!
# The folder that an identity names

The text of an identity is a single name, and any name but the dot is that of a folder
of its own.  The dot stays in the folder of the definitions: its files are put beside
the folders of the others, and from then on the store cannot be listed.
-/

namespace Assay

namespace Directory

/-! ## Where the files of a definition are -/

section

variable {root : Path} {working : Location} {identity : Identity} {path : Path}

/-- The folder of a definition and its files. -/
def paths (root : Path) (identity : Identity) : List Path :=
  let folder := entryFolder root identity
  [folder, metadataFile folder, payloadFile folder]

/-- An identity has a folder of its own.  Its text is a single name, which leads from the
folder of the definitions to a folder in it, and neither that folder nor a file of it is
in the folder of another definition. -/
structure OwnsFolder (root : Path) (working : Location) (identity : Identity) : Prop where
  segment : Path.ofText identity.text = ⟨false, [identity.text]⟩
  child : (entryFolder root identity).target working =
    (definitionsFolder root).target working ++ [identity.text]
  within : ∀ path ∈ paths root identity,
    (definitionsFolder root).target working ++ [identity.text] <+: path.target working
  apart : ∀ other, other ≠ identity → other.text ≠ "." → ∀ path ∈ paths root identity,
    ¬(entryFolder root other).target working <+: path.target working

theorem target_entryFolder (root : Path) (working : Location) (notDot : identity.text ≠ ".") :
    (entryFolder root identity).target working =
      (definitionsFolder root).target working ++ [identity.text] := by
  rw [entryFolder, Path.target_enter, Path.step_named (Identity.isIdleName_text_of_ne notDot)
    identity.text_ne_outer]

theorem target_of_mem_paths (working : Location) (member : path ∈ paths root identity) :
    ∃ rest, path.target working = (entryFolder root identity).target working ++ rest := by
  simp only [paths, List.mem_cons, List.not_mem_nil, or_false] at member
  rcases member with rfl | rfl | rfl
  · exact ⟨[], (List.append_nil _).symm⟩
  · exact ⟨["meta.json"], by
      rw [metadataFile, Path.target_enter, Path.step_named (by decide) (by decide)]⟩
  · exact ⟨["data.bin"], by
      rw [payloadFile, Path.target_enter, Path.step_named (by decide) (by decide)]⟩

/-- Of all identities only the dot has no folder of its own. -/
theorem ownsFolder_iff (root : Path) (working : Location) (identity : Identity) :
    OwnsFolder root working identity ↔ identity.text ≠ "." := by
  constructor
  · intro owns dot
    have stays : (entryFolder root identity).target working =
        (definitionsFolder root).target working := by
      rw [entryFolder, Path.target_enter, Path.step_idle (identity.isIdleName_text_iff.mpr dot)]
    have longer := congrArg List.length (stays.symm.trans owns.child)
    simp at longer
  · intro notDot
    have child := target_entryFolder root working notDot
    refine ⟨identity.path_ofText, child, ?within, ?apart⟩
    case within =>
      intro path member
      obtain ⟨rest, target⟩ := target_of_mem_paths working member
      rw [target, child]
      exact List.prefix_append _ rest
    case apart =>
      intro other different otherNotDot path member inside
      obtain ⟨rest, target⟩ := target_of_mem_paths working member
      rw [target, child, target_entryFolder root working otherNotDot, List.append_assoc,
        List.prefix_append_right_inj, List.singleton_append, List.cons_prefix_cons] at inside
      exact different (Identity.text_injective inside.1)

end

/-! ## Saves that were made -/

section

variable {σ : Type}

theorem save_eq_ok
    {files : FileSystem σ} {root : Path} {metadata : Metadata} {content : Payload}
    {state later : σ} {version : Version}
    (saved : save files root metadata content state = (.ok version, later)) :
    ∃ previous made known written,
      files.makeFolders (entryFolder root metadata.identity) state = (.ok (), made) ∧
        readMetadata files (metadataFile (entryFolder root metadata.identity)) made =
          (.ok previous, known) ∧
        files.write (metadataFile (entryFolder root metadata.identity))
          (encodeMetadata (metadata.withVersion (nextVersion previous))) known =
            (.ok (), written) ∧
        files.write (payloadFile (entryFolder root metadata.identity)) content written =
          (.ok (), later) := by
  rw [save] at saved
  rcases created : files.makeFolders (entryFolder root metadata.identity) state with
    ⟨error | _, made⟩
  · simp [created, refuseFile, refuse] at saved
  rcases found : readMetadata files (metadataFile (entryFolder root metadata.identity)) made
    with ⟨failure | previous, known⟩
  · simp [created, found] at saved
  rcases replaced : files.write (metadataFile (entryFolder root metadata.identity))
      (encodeMetadata (metadata.withVersion (nextVersion previous))) known with
    ⟨error | _, written⟩
  · simp [created, found, replaced, refuseFile, refuse] at saved
  rcases stored : files.write (payloadFile (entryFolder root metadata.identity)) content
      written with ⟨error | _, last⟩
  · simp [created, found, replaced, stored, refuseFile, refuse] at saved
  · simp only [created, found, replaced, stored, Prod.mk.injEq] at saved
    obtain ⟨_, rfl⟩ := saved
    exact ⟨previous, made, known, written, rfl, found, replaced, stored⟩

/-- The saves of a ledger, made one after the other by the store below a root. -/
inductive SavesAll (files : FileSystem σ) (root : Path) (start : σ) : Ledger → σ → Prop where
  | none : SavesAll files root start [] start
  | next {saves : Ledger} {metadata : Metadata} {content : Payload} {version : Version}
      {middle later : σ}
      (earlier : SavesAll files root start saves middle)
      (last : save files root metadata content middle = (.ok version, later)) :
      SavesAll files root start (saves ++ [(metadata, content)]) later

end

variable {volume later : Volume} {root : Path} {home place : Location} {identity : Identity}
  {metadata : Metadata} {content : Payload} {version : Version} {saves : Ledger}
  {name : String}

/-- A save that was made has put the metadata where their path leads, in a volume to
which at most folders were added before. -/
theorem save_puts_metadata
    (saved : save Volume.files root metadata content volume = (.ok version, later)) :
    ∃ known place bytes, volume.KeepsNodes known ∧
      known.locate (metadataFile (entryFolder root metadata.identity)) = .ok place ∧
        known.isFolder place = false ∧
          (known.put place (.file bytes)).KeepsNodes later := by
  obtain ⟨previous, made, known, written, created, found, replaced, stored⟩ := save_eq_ok saved
  rw [readMetadata_eq_metadataIn] at found
  obtain rfl : made = known := congrArg Prod.snd found
  obtain ⟨place, located, noFolder, rfl⟩ := Volume.files_write_eq_ok replaced
  exact ⟨made, place, _, Volume.keepsNodes_makeFolders created, located, noFolder,
    Volume.keepsNodes_write stored⟩

theorem keepsNodes_save
    (saved : save Volume.files root metadata content volume = (.ok version, later)) :
    volume.KeepsNodes later := by
  obtain ⟨known, place, bytes, before, _, noFolder, after⟩ := save_puts_metadata saved
  exact (before.trans (.putFile noFolder bytes)).trans after

/-! ### Saves under names -/

theorem addresses_of_save
    (saved : save Volume.files root metadata content volume = (.ok version, later))
    (notDot : metadata.identity.text ≠ ".") : Addresses root metadata.identity := by
  obtain ⟨known, place, _, _, located, _, _⟩ := save_puts_metadata saved
  obtain ⟨usable, _⟩ := Volume.locate_eq_ok located
  obtain ⟨folder, locatedFolder, _⟩ := Volume.locate_enter_eq_ok located
  obtain ⟨outer, _, followed⟩ := Volume.locate_enter_eq_ok locatedFolder
  obtain ⟨_, _, notLong⟩ := Volume.follow_eq_ok followed
  have nameable : Nameable metadata.identity :=
    ⟨notDot, notLong (Identity.isIdleName_text_of_ne notDot) metadata.identity.text_ne_outer⟩
  exact ⟨nameable.enterable_of_usable (Volume.usable_of_enter usable), usable.short⟩

/-- A volume without definitions holds the saves that were made under names. -/
theorem SavesAll.holds
    (all : SavesAll Volume.files root volume saves later)
    (vacant : Holds volume home []) (opens : Opens volume root home)
    (survive : ∀ save ∈ saves, Survives save.1)
    (notDot : ∀ save ∈ saves, save.1.identity.text ≠ ".") :
    Holds later home saves ∧ volume.KeepsFolders later ∧
      ∀ save ∈ saves, Addresses root save.1.identity := by
  induction all with
  | none => exact ⟨vacant, ⟨rfl, fun _ folder => folder⟩, List.forall_mem_nil _⟩
  | @next saves metadata content version middle later _ last induction =>
      rw [List.forall_mem_append, List.forall_mem_singleton] at survive notDot
      obtain ⟨holds, keeps, known⟩ := induction survive.1 notDot.1
      have addresses := addresses_of_save last notDot.2
      have saved := holds.save_eq (opens.later keeps) addresses survive.1 content
      obtain rfl := congrArg Prod.snd (last.symm.trans saved)
      refine ⟨holds.after_save metadata content,
        keeps.trans (holds.keepsFolders_stored _ _ _), ?_⟩
      rw [List.forall_mem_append, List.forall_mem_singleton]
      exact ⟨known, addresses⟩

/-! ### Saves under the dot -/

/-- A file that stands beside the folders of the definitions. -/
structure Stray (volume : Volume) (root : Path) (place : Location) (name : String) : Prop where
  located : volume.locate (definitionsFolder root) = .ok place
  folder : volume.node? place = some .folder
  enterable : Path.Enterable name
  file : ∃ content, volume.node? (place ++ [name]) = some (.file content)

namespace Stray

theorem kept
    (stray : Stray volume root place name) (keeps : volume.KeepsNodes later) :
    Stray later root place name where
  located := keeps.locate stray.located
  folder := keeps.folder place stray.folder
  enterable := stray.enterable
  file := by
    obtain ⟨content, file⟩ := stray.file
    exact keeps.file _ content file

/-- No metadata is read from behind a file, and it is not taken for missing. -/
theorem readMetadata_eq_error (stray : Stray volume root place name) :
    ∃ failure, readMetadata Volume.files (metadataFile ((definitionsFolder root).enter name))
      volume = (.error failure, volume) := by
  obtain ⟨content, file⟩ := stray.file
  have refused : ∃ error, error ≠ .notFound ∧
      volume.read (metadataFile ((definitionsFolder root).enter name)) = .error error := by
    by_cases usable : (metadataFile ((definitionsFolder root).enter name)).Usable
    · refine ⟨.notAFolder, by decide, ?_⟩
      have inner := Volume.usable_of_enter usable
      rw [metadataFile, Volume.read, Volume.locate_enter enterable_metadata.noNul usable.short,
        Volume.locate_enter stray.enterable.noNul inner.short, stray.located]
      simp only [Except.bind, Volume.follow_enterable stray.folder stray.enterable,
        Volume.follow_file file]
      rfl
    · obtain ⟨error, found, refused⟩ := Volume.locate_of_not_usable usable
      refine ⟨error, found, ?_⟩
      rw [Volume.read, refused]
      rfl
  obtain ⟨error, found, read⟩ := refused
  refine ⟨.refused (.io error.message), ?_⟩
  rw [readMetadata_eq_metadataIn, Volume.files_read, read]
  cases error with
  | notFound => contradiction
  | _ => rfl

theorem readAll_eq_error
    (stray : Stray volume root place name) {names : List String} (member : name ∈ names) :
    ∃ failure, readAll Volume.files root names volume = (.error failure, volume) := by
  induction names with
  | nil => contradiction
  | cons first names induction =>
      have unchanged := readMetadata_eq_metadataIn Volume.files
        (metadataFile ((definitionsFolder root).enter first)) volume
      rw [Volume.files_read] at unchanged
      rcases List.mem_cons.mp member with rfl | member
      · obtain ⟨failure, failed⟩ := stray.readMetadata_eq_error
        exact ⟨failure, by simp only [readAll, failed]⟩
      · obtain ⟨failure, failed⟩ := induction member
        rw [readAll, unchanged]
        cases metadataIn (volume.read (metadataFile ((definitionsFolder root).enter first))) with
        | error failure => exact ⟨failure, rfl⟩
        | ok found => exact ⟨failure, by simp only [failed]⟩

/-- A store cannot be listed with a file among the folders of the definitions. -/
theorem list_eq_error (stray : Stray volume root place name) :
    ∃ failure, list Volume.files root volume = (.error failure, volume) := by
  obtain ⟨content, file⟩ := stray.file
  have children : volume.children (definitionsFolder root) = .ok (volume.namesIn place) := by
    simp only [Volume.children, stray.located, bind, Except.bind, stray.folder]
    rfl
  obtain ⟨failure, failed⟩ := stray.readAll_eq_error (Volume.mem_namesIn file)
  refine ⟨failure, ?_⟩
  simp [list, children, failed]

end Stray

/-- The files of the dot are put beside the folders of the definitions. -/
theorem stray_of_save
    (saved : save Volume.files root metadata content volume = (.ok version, later))
    (dot : metadata.identity.text = ".") : ∃ place, Stray later root place "meta.json" := by
  obtain ⟨known, file, bytes, _, located, noFolder, after⟩ := save_puts_metadata saved
  obtain ⟨folder, locatedFolder, followed⟩ := Volume.locate_enter_eq_ok located
  obtain ⟨place, locatedPlace, stayed⟩ := Volume.locate_enter_eq_ok locatedFolder
  obtain rfl : folder = place := by
    rw [(Volume.follow_eq_ok stayed).2.1]
    exact Path.step_idle (metadata.identity.isIdleName_text_iff.mpr dot) place
  obtain ⟨isFolder, entered, _⟩ := Volume.follow_eq_ok followed
  obtain rfl : file = folder ++ ["meta.json"] :=
    entered.trans (Path.step_named (by decide) (by decide) folder)
  have puts := Volume.KeepsNodes.putFile noFolder bytes
  have stray : Stray (known.put (folder ++ ["meta.json"]) (.file bytes)) root folder
      "meta.json" :=
    ⟨puts.locate locatedPlace, puts.folder folder isFolder, enterable_metadata, bytes,
      by simp⟩
  exact ⟨folder, stray.kept after⟩

/-- Once a save was made under the dot, its file stays where it is. -/
theorem SavesAll.stray
    (all : SavesAll Volume.files root volume saves later)
    {saved : Metadata × Payload} (member : saved ∈ saves) (dot : saved.1.identity.text = ".") :
    ∃ place, Stray later root place "meta.json" := by
  induction all with
  | none => contradiction
  | @next saves metadata content version middle later _ last induction =>
      rcases List.mem_append.mp member with earlier | same
      · obtain ⟨place, stray⟩ := induction earlier
        exact ⟨place, stray.kept (keepsNodes_save last)⟩
      · rw [List.mem_singleton.mp same] at dot
        exact stray_of_save last dot

/-! ## Any accepted text -/

/-- Where the files of a definition are depends on nothing but names, whatever a volume
holds.  Every accepted text is a single name and, unless it is the dot, that of a folder
of its own among those of the definitions.  A store in which any saves were made can be
listed, with each definition once, just when none of them was made under the dot. -/
theorem segments_are_folders (root : Path) :
    (∀ (volume : Volume) (identity : Identity), ∀ path ∈ paths root identity, ∀ place,
      volume.locate path = .ok place → place = path.target volume.working) ∧
    (∀ text identity, Identity.ofText text = .ok identity → ∀ working,
      (OwnsFolder root working identity ↔ text ≠ ".")) ∧
    ∀ (volume later : Volume) (home : Location) (saves : Ledger),
      Holds volume home [] → Opens volume root home → (∀ save ∈ saves, Survives save.1) →
      SavesAll Volume.files root volume saves later →
      ((∃ listing, saves.Lists listing ∧
          list Volume.files root later = (.ok listing, later)) ↔
        ∀ save ∈ saves, save.1.identity.text ≠ ".") := by
  refine ⟨?targets, ?folders, ?listings⟩
  case targets =>
    intro volume identity path _ place located
    exact (Volume.locate_eq_ok located).2
  case folders =>
    intro text identity accepted working
    rw [ownsFolder_iff, Identity.text_of_ofText accepted]
  case listings =>
    intro volume later home saves vacant opens survive all
    constructor
    · rintro ⟨listing, _, listed⟩ save member dot
      obtain ⟨place, stray⟩ := all.stray member dot
      obtain ⟨failure, failed⟩ := stray.list_eq_error
      simp [failed] at listed
    · intro notDot
      obtain ⟨holds, keeps, addresses⟩ := all.holds vacant opens survive notDot
      exact holds.list_eq (opens.later keeps) addresses survive

/-- The place of a store in the workshop, from the root. -/
def workshopStore : Path := ⟨true, ["srv", "store"]⟩

/-- A volume after a save in the workshop. -/
def stocked : Volume :=
  stored workshop ["srv", "store", "tests", "within-tolerance"]
    (encodeMetadata (Metadata.withinTolerance.withVersion 1)) ⟨#[1]⟩

theorem save_workshop :
    save Volume.files workshopStore .withinTolerance ⟨#[1]⟩ workshop = (.ok 1, stocked) :=
  vacant_workshop.holds.save_eq opens_workshop.1 (by decide) (List.forall_mem_nil _) ⟨#[1]⟩

theorem survives_withinTolerance : Survives .withinTolerance :=
  survives_of_portable Metadata.portable_withinTolerance

/-- One save is made in the folder that its identity names, and listed. -/
theorem segments_are_folders_workshop :
    let identity := Metadata.withinTolerance.identity
    let saves : Ledger := [(.withinTolerance, ⟨#[1]⟩)]
    let place : Location := ["srv", "store", "tests", "within-tolerance"]
    stocked.locate (entryFolder workshopStore identity) = .ok place ∧
      place = (entryFolder workshopStore identity).target stocked.working ∧
      OwnsFolder workshopStore stocked.working identity ∧
      SavesAll Volume.files workshopStore workshop saves stocked ∧
      ∃ listing, saves.Lists listing ∧
        list Volume.files workshopStore stocked = (.ok listing, stocked) := by
  intro identity saves place
  have located : stocked.locate (entryFolder workshopStore Metadata.withinTolerance.identity) =
      .ok ["srv", "store", "tests", "within-tolerance"] := rfl
  have all : SavesAll Volume.files workshopStore workshop saves stocked :=
    .next .none save_workshop
  obtain ⟨targets, folders, listings⟩ := segments_are_folders workshopStore
  have owns := folders _ _ (Identity.ofText_text identity) stocked.working
  have listed := listings workshop stocked ["srv", "store"] saves vacant_workshop.holds
    opens_workshop.1 (List.forall_mem_singleton.mpr survives_withinTolerance) all
  exact ⟨located, targets stocked identity _ List.mem_cons_self place located,
    owns.mpr (by decide), all, listed.mpr (List.forall_mem_singleton.mpr (by decide))⟩

/-- A definition whose identity is the dot. -/
def dotted : Metadata := { Metadata.withinTolerance with identity := ⟨".", by decide⟩ }

theorem survives_dotted : Survives dotted :=
  @survives_of_portable dotted Metadata.portable_withinTolerance

/-- The dot is accepted as an identity and names no folder of its own.  After a save under
a name a save under the dot is made as well, and then the store is not listed. -/
theorem dot_names_no_folder :
    let saves : Ledger := [(.withinTolerance, ⟨#[1]⟩), (dotted, ⟨#[2]⟩)]
    Identity.ofText "." = .ok dotted.identity ∧
      ¬OwnsFolder workshopStore workshop.working dotted.identity ∧
      Holds workshop ["srv", "store"] [] ∧
      Opens workshop workshopStore ["srv", "store"] ∧ (∀ save ∈ saves, Survives save.1) ∧
      ∃ later failure,
        SavesAll Volume.files workshopStore workshop saves later ∧
          list Volume.files workshopStore later = (.error failure, later) := by
  intro saves
  obtain ⟨later, second⟩ : ∃ later,
      save Volume.files workshopStore dotted ⟨#[2]⟩ stocked = (.ok 1, later) := ⟨_, rfl⟩
  obtain ⟨place, stray⟩ := stray_of_save second rfl
  obtain ⟨failure, failed⟩ := stray.list_eq_error
  refine ⟨rfl, ?_, vacant_workshop.holds, opens_workshop.1, ?_, later, failure, ?_, failed⟩
  · intro owns
    exact (ownsFolder_iff workshopStore workshop.working dotted.identity).mp owns rfl
  · simp only [saves, List.forall_mem_cons]
    exact ⟨survives_withinTolerance, survives_dotted, List.forall_mem_nil _⟩
  · exact .next (.next .none save_workshop) second

end Directory

end Assay
