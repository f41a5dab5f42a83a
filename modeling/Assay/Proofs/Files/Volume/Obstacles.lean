import Assay.Proofs.Files.Volume.Paths

/-!
# Obstacles on a path

A path with a name that ends early, or with too many bytes, is refused before it is
followed.  A file on the way to a place stops every path that goes on behind it.
Neither is read, written or made, and the volume stays as it is.
-/

namespace Assay

/-- A path that is followed at all. -/
structure Path.Usable (path : Path) : Prop where
  noNul : ∀ name ∈ path.names, '\x00' ∉ name.toList
  short : path.byteCount ≤ Volume.longestPath

namespace Volume

variable {volume : Volume} {path : Path} {place outer : Location} {name : String}
  {error : FileError}

theorem usable_of_enter (usable : (path.enter name).Usable) : path.Usable where
  noNul := fun inner member => usable.noNul inner (List.mem_append_left _ member)
  short := short_of_enter usable.short

theorem noNul_of_enter (usable : (path.enter name).Usable) : '\x00' ∉ name.toList :=
  usable.noNul name (List.mem_append_right _ List.mem_cons_self)

/-- Whether a path is refused does not depend on the volume. -/
theorem locate_of_not_usable (unusable : ¬path.Usable) :
    ∃ error, error ≠ .notFound ∧ ∀ volume : Volume, volume.locate path = .error error := by
  by_cases nul : path.names.any (fun name => name.toList.contains '\x00') = true
  · refine ⟨.invalidName, by decide, ?_⟩
    intro volume
    rw [locate, if_pos nul]
  · refine ⟨.nameTooLong, by decide, ?_⟩
    intro volume
    rw [locate, if_neg nul, if_pos]
    apply Nat.lt_of_not_le
    intro short
    apply unusable
    refine ⟨?_, short⟩
    intro name member ended
    apply nul
    exact List.any_eq_true.mpr ⟨name, member, List.contains_iff_mem.mpr ended⟩

theorem read_enter_of_error
    (refused : volume.locate path = .error error) (usable : (path.enter name).Usable) :
    volume.read (path.enter name) = .error error := by
  rw [read, Volume.locate_enter (noNul_of_enter usable) usable.short, refused]
  rfl

/-! ## Files in the way -/

theorem Grounded.free_of_folder
    (grounded : volume.Grounded) (folder : volume.node? place = some .folder) :
    volume.Free place := by
  induction place using List.reverseRecOn with
  | nil =>
      intro outer inside content found
      rw [List.prefix_nil.mp inside, folder] at found
      exact FileNode.noConfusion (Option.some.inj found)
  | append_singleton place name induction =>
      intro outer inside content found
      rcases List.prefix_concat_iff.mp inside with rfl | inside
      · rw [folder] at found
        exact FileNode.noConfusion (Option.some.inj found)
      · exact induction (grounded folder) outer inside content found

theorem file_of_not_free
    (free : volume.Free outer) (blocked : ¬volume.Free (outer ++ [name])) :
    ∃ content, volume.node? (outer ++ [name]) = some (.file content) := by
  apply Classical.byContradiction
  intro noFile
  apply blocked
  intro place inside content found
  rcases List.prefix_concat_iff.mp inside with rfl | inside
  · exact noFile ⟨content, found⟩
  · exact free place inside content found

theorem follow_file
    {content : ByteArray} (file : volume.node? place = some (.file content)) (name : String) :
    volume.follow place name = .error .notAFolder := by
  simp [follow, file]

theorem LeadsTo.locate_enter_of_blocked
    (leads : volume.LeadsTo path place) (grounded : volume.Grounded)
    (blocked : ¬volume.Free place) (noNul : '\x00' ∉ name.toList)
    (short : (path.enter name).byteCount ≤ longestPath) :
    volume.locate (path.enter name) = .error .notAFolder := by
  induction leads generalizing name with
  | there _ folder => exact absurd (grounded.free_of_folder folder) blocked
  | stay idle leads induction =>
      rw [Volume.locate_enter noNul short,
        induction blocked (noNul_of_idle idle) (short_of_enter short)]
      rfl
  | @enter _ outer _ enterable leads induction =>
      rw [Volume.locate_enter noNul short]
      by_cases free : volume.Free outer
      · obtain ⟨content, file⟩ := file_of_not_free free blocked
        rw [leads.locate_enter grounded (grounded file) enterable (short_of_enter short)]
        exact follow_file file name
      · rw [induction free enterable.noNul (short_of_enter short)]
        rfl

theorem read_enter_of_blocked
    (leads : volume.LeadsTo path place) (grounded : volume.Grounded)
    (blocked : ¬volume.Free place) (enterable : Path.Enterable name)
    (short : (path.enter name).byteCount ≤ longestPath) :
    volume.read (path.enter name) = .error .notAFolder := by
  rw [read, leads.locate_enter_of_blocked grounded blocked enterable.noNul short]
  rfl

/-! ## Folders that are not made -/

/-- Nothing is made where making the innermost folder fails for another reason than
a missing folder. -/
theorem makeFolders_of_error
    (named : path.names ≠ []) (failed : volume.makeFolder path = .error error)
    (found : error ≠ .notFound) (noFolder : volume.leadsToFolder path = false) :
    volume.makeFolders path = (.error error, volume) := by
  have ensured : volume.ensureFolder path = (.error error, volume) := by
    simp only [ensureFolder, failed, noFolder, Bool.false_eq_true, if_false]
  rw [makeFolders, if_neg (by simpa using named), makeFoldersWithin.eq_def]
  cases error with
  | notFound => contradiction
  | _ => simp only [failed, ensured]

theorem makeFolders_of_not_usable (unusable : ¬path.Usable) :
    ∃ error, volume.makeFolders path = (.error error, volume) := by
  obtain ⟨error, found, refused⟩ := locate_of_not_usable unusable
  refine ⟨error, makeFolders_of_error ?_ ?_ found ?_⟩
  · intro none
    apply unusable
    constructor
    · simp [none]
    · simp [Path.byteCount, none]
  · rw [makeFolder, refused volume]
    rfl
  · rw [leadsToFolder, refused volume]

theorem makeFolders_enter_of_blocked
    (leads : volume.LeadsTo path place) (grounded : volume.Grounded)
    (blocked : ¬volume.Free (place ++ [name])) (enterable : Path.Enterable name)
    (short : (path.enter name).byteCount ≤ longestPath) :
    ∃ error, volume.makeFolders (path.enter name) = (.error error, volume) := by
  have named : (path.enter name).names ≠ [] := by simp [Path.enter]
  by_cases free : volume.Free place
  · obtain ⟨content, file⟩ := file_of_not_free free blocked
    have located := leads.locate_enter grounded (grounded file) enterable short
    refine ⟨.alreadyThere, makeFolders_of_error named ?_ (by decide) ?_⟩
    · simp only [makeFolder_of_located located, file]
    · simp only [leadsToFolder, located, isFolder, file]
  · have stopped := leads.locate_enter_of_blocked grounded free enterable.noNul short
    refine ⟨.notAFolder, makeFolders_of_error named ?_ (by decide) ?_⟩
    · rw [makeFolder, stopped]
      rfl
    · rw [leadsToFolder, stopped]

/-! ## Names that are too long -/

/-- A name that is looked up, but is too long for any folder. -/
structure Overlong (name : String) : Prop where
  notIdle : Path.isIdleName name = false
  notOuter : name ≠ ".."
  long : longestName < name.utf8ByteSize

theorem LeadsTo.locate_enter_of_long
    (leads : volume.LeadsTo path place) (grounded : volume.Grounded)
    (folder : volume.node? place = some .folder) (overlong : Overlong name)
    (usable : (path.enter name).Usable) :
    volume.locate (path.enter name) = .error .nameTooLong := by
  rw [Volume.locate_enter (noNul_of_enter usable) usable.short,
    leads.locate_of_folder grounded folder (short_of_enter usable.short)]
  simp [Except.bind, follow, folder, overlong.notIdle, overlong.notOuter, overlong.long]

/-- A name that is too long is found to be so only in its folder: the folders on the
way to it are made. -/
theorem makeFolders_enter_of_long
    (leads : volume.LeadsTo path place) (grounded : volume.Grounded)
    (free : volume.Free place) (overlong : Overlong name)
    (usable : (path.enter name).Usable) :
    volume.makeFolders (path.enter name) = (.error .nameTooLong, volume.addFolders place) := by
  have refused {later : Volume} (keeps : volume.KeepsFolders later) (laterTree : later.Grounded)
      (folder : later.node? place = some .folder) :
      later.makeFolder (path.enter name) = .error .nameTooLong ∧
        later.leadsToFolder (path.enter name) = false := by
    have located :=
      (keeps.leadsTo leads).locate_enter_of_long laterTree folder overlong usable
    constructor
    · rw [makeFolder, located]
      rfl
    · rw [leadsToFolder, located]
  have named : (path.enter name).names ≠ [] := by simp [Path.enter]
  rcases free.none_or_folder with missing | folder
  · have notFound : volume.makeFolder (path.enter name) = .error .notFound := by
      rw [makeFolder, leads.locate_enter_of_missing grounded free missing
        (noNul_of_enter usable) usable.short]
      rfl
    obtain ⟨failed, noFolder⟩ := refused (keepsFolders_addFolders free)
      (grounded.addFolders free) (node?_addFolders_self free)
    have way : makeFoldersWithin path.names.length volume path.withoutIdleEnd =
        (.ok (), volume.addFolders place) :=
      makeFoldersWithin_withoutIdleEnd leads grounded free missing
        (short_of_enter usable.short) (Nat.le_refl _)
    rw [makeFolders, if_neg (by simpa using named), Path.length_enter,
      makeFoldersWithin.eq_def]
    simp only [notFound, Path.parent?_enter path overlong.notIdle, way, ensureFolder, failed,
      noFolder, Bool.false_eq_true, if_false]
  · obtain ⟨failed, noFolder⟩ := refused ⟨rfl, fun _ there => there⟩ grounded folder
    rw [makeFolders_of_error named failed (by decide) noFolder,
      addFolders_of_folder grounded folder]

/-! ## What an operation can come to -/

/-- Making a folder makes all folders on the way to it, or nothing at all. -/
theorem makeFolders_cases
    (grounded : volume.Grounded) (leads : path.Usable → volume.LeadsTo path place)
    (enterable : (path.enter name).Usable → Path.Enterable name) :
    (volume.Free (place ++ [name]) ∧
        volume.makeFolders (path.enter name) =
          (.ok (), volume.addFolders (place ++ [name]))) ∨
      ∃ error, volume.makeFolders (path.enter name) = (.error error, volume) := by
  by_cases usable : (path.enter name).Usable
  · have leadsThere := leads (usable_of_enter usable)
    by_cases free : volume.Free (place ++ [name])
    · left
      exact ⟨free, makeFolders_enter leadsThere grounded free (enterable usable)
        usable.short⟩
    · right
      exact makeFolders_enter_of_blocked leadsThere grounded free (enterable usable)
        usable.short
  · right
    exact makeFolders_of_not_usable usable

/-- Writing changes nothing, or puts a file where no folder is. -/
theorem write_cases
    (grounded : volume.Grounded) (leads : path.Usable → volume.LeadsTo path place)
    (folder : volume.node? place = some .folder) (enterable : Path.Enterable name)
    (content : ByteArray) :
    ((path.enter name).Usable ∧ volume.node? (place ++ [name]) ≠ some .folder ∧
        files.write (path.enter name) content volume =
          (.ok (), volume.put (place ++ [name]) (.file content))) ∨
      ∃ error, files.write (path.enter name) content volume = (.error error, volume) := by
  by_cases usable : (path.enter name).Usable
  · have leadsThere := leads (usable_of_enter usable)
    by_cases taken : volume.node? (place ++ [name]) = some .folder
    · right
      have located := leadsThere.locate_enter grounded folder enterable usable.short
      refine ⟨.isAFolder, ?_⟩
      simp only [files, write, located, isFolder, taken, bind, Except.bind]
      rfl
    · left
      exact ⟨usable, taken, files_write_of_ok (write_enter leadsThere grounded folder
        enterable usable.short taken content)⟩
  · right
    obtain ⟨error, _, refused⟩ := locate_of_not_usable usable
    refine ⟨error, ?_⟩
    simp only [files, write, refused]
    rfl

end Volume

end Assay
