import Assay.Proofs.Files.Volume.Paths

/-!
# Nodes that stay

Nothing that is done with a volume takes a node away or makes a file out of a
folder or a folder out of a file, whether it succeeds or fails.
-/

namespace Assay.Volume

variable {volume later : Volume} {path : Path} {place : Location}

/-- A volume in which every folder of another one is a folder and every file a
file. -/
structure KeepsNodes (volume later : Volume) : Prop extends KeepsFolders volume later where
  file : ∀ place content, volume.node? place = some (.file content) →
    ∃ kept, later.node? place = some (.file kept)

namespace KeepsNodes

theorem refl (volume : Volume) : volume.KeepsNodes volume where
  working := rfl
  folder := fun _ folder => folder
  file := fun _ content file => ⟨content, file⟩

theorem trans
    {last : Volume} (first : volume.KeepsNodes later) (second : later.KeepsNodes last) :
    volume.KeepsNodes last where
  toKeepsFolders := first.toKeepsFolders.trans second.toKeepsFolders
  file := by
    intro place content file
    obtain ⟨middle, kept⟩ := first.file place content file
    exact second.file place middle kept

theorem putFolder (missing : volume.node? place = none) :
    volume.KeepsNodes (volume.put place .folder) := by
  rcases List.eq_nil_or_concat place with rfl | ⟨outer, name, rfl⟩
  · contradiction
  · rw [List.concat_eq_append] at missing ⊢
    refine ⟨⟨rfl, ?_⟩, ?_⟩
    · intro other folder
      rw [node?_put]
      split
      · rfl
      · exact folder
    · intro other content file
      refine ⟨content, ?_⟩
      have different : other ≠ outer ++ [name] := fun same => by simp [same, missing] at file
      simpa [different] using file

theorem putFile (noFolder : volume.isFolder place = false) (content : ByteArray) :
    volume.KeepsNodes (volume.put place (.file content)) := by
  rcases List.eq_nil_or_concat place with rfl | ⟨outer, name, rfl⟩
  · contradiction
  · rw [List.concat_eq_append] at noFolder ⊢
    have taken : volume.node? (outer ++ [name]) ≠ some .folder := by
      intro folder
      simp [isFolder, folder] at noFolder
    refine ⟨keepsFolders_putFile taken content, ?_⟩
    intro other known file
    rw [node?_put]
    split
    · exact ⟨content, rfl⟩
    · exact ⟨known, file⟩

end KeepsNodes

/-- A node that is there is in its folder. -/
theorem mem_namesIn
    {node : FileNode} {name : String} (found : volume.node? (place ++ [name]) = some node) :
    name ∈ volume.namesIn place := by
  rcases root_or_mem_of_node? found with ⟨root, _⟩ | known
  · simp at root
  · exact List.mem_filterMap.mpr ⟨_, known, by simp⟩

/-! ## Operations -/

theorem keepsNodes_makeFolder (made : volume.makeFolder path = .ok later) :
    volume.KeepsNodes later := by
  rw [makeFolder] at made
  cases located : volume.locate path with
  | error error => simp [located, bind, Except.bind] at made
  | ok place =>
      rw [← makeFolder, makeFolder_of_located located] at made
      split at made
      · contradiction
      · rename_i missing
        obtain rfl := Except.ok.inj made
        exact .putFolder missing

theorem keepsNodes_ensureFolder (volume : Volume) (path : Path) :
    volume.KeepsNodes (volume.ensureFolder path).2 := by
  rw [ensureFolder]
  split
  · rename_i made
    exact keepsNodes_makeFolder made
  · split <;> exact .refl volume

theorem keepsNodes_makeFoldersWithin (levels : Nat) (volume : Volume) (path : Path) :
    volume.KeepsNodes (makeFoldersWithin levels volume path).2 := by
  fun_induction makeFoldersWithin levels volume path with
  | case1 volume path _ levels outer _ error later way induction =>
      rw [way] at induction
      exact induction
  | case2 volume path _ levels outer _ later way induction =>
      rw [way] at induction
      exact induction.trans (keepsNodes_ensureFolder later path)
  | case3 _ volume => exact .refl volume
  | case4 _ volume path => exact keepsNodes_ensureFolder volume path

theorem keepsNodes_makeFolders
    {answer : Except FileError Unit} (made : files.makeFolders path volume = (answer, later)) :
    volume.KeepsNodes later := by
  obtain rfl : (volume.makeFolders path).2 = later := congrArg Prod.snd made
  cases noNames : path.names.isEmpty with
  | true => simpa [makeFolders, noNames] using KeepsNodes.refl volume
  | false => simpa [makeFolders, noNames] using keepsNodes_makeFoldersWithin _ volume path

theorem write_eq_ok
    {content : ByteArray} (written : volume.write path content = .ok later) :
    ∃ place, volume.locate path = .ok place ∧ volume.isFolder place = false ∧
      later = volume.put place (.file content) := by
  rw [write] at written
  cases located : volume.locate path with
  | error error => simp [located, bind, Except.bind] at written
  | ok place =>
      cases taken : volume.isFolder place with
      | true => simp [located, taken, bind, Except.bind, throw, throwThe,
          MonadExceptOf.throw] at written
      | false =>
          simp only [located, taken, bind, Except.bind, Bool.false_eq_true, if_false] at written
          exact ⟨place, rfl, taken, (Except.ok.inj written).symm⟩

theorem files_write_eq_ok
    {content : ByteArray} (written : files.write path content volume = (.ok (), later)) :
    ∃ place, volume.locate path = .ok place ∧ volume.isFolder place = false ∧
      later = volume.put place (.file content) := by
  simp only [files] at written
  split at written
  · rename_i changed
    obtain rfl := congrArg Prod.snd written
    exact write_eq_ok changed
  · simp at written

theorem keepsNodes_write
    {content : ByteArray} {answer : Except FileError Unit}
    (written : files.write path content volume = (answer, later)) :
    volume.KeepsNodes later := by
  cases answer with
  | ok =>
      obtain ⟨_, _, noFolder, rfl⟩ := files_write_eq_ok written
      exact .putFile noFolder content
  | error error =>
      simp only [files] at written
      split at written
      · simp at written
      · obtain rfl := congrArg Prod.snd written
        exact .refl volume

end Assay.Volume
