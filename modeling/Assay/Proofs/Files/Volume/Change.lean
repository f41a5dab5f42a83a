import Assay.Proofs.Files.Volume.Obstacles

/-!
# Changes in a folder

Folders are made on the way to a place, and files with some names are written in its
folder.  Nothing else changes, so that all other files which do not stand on that way
are read as before, also those that could not be read.
-/

namespace Assay.Volume

variable {volume later : Volume} {entry place outer : Location} {path : Path}
  {name : String} {names : List String}

/-- What a volume has become by folders on the way to an entry and by files with some
names in it. -/
structure ChangesWithin (volume later : Volume) (entry : Location) (names : List String) :
    Prop where
  grounded : later.Grounded
  keeps : volume.KeepsFolders later
  way : ∀ place, place <+: entry →
    later.node? place = volume.node? place ∨
      volume.node? place = none ∧ later.node? place = some .folder
  aside : ∀ place, ¬place <+: entry → (∀ name ∈ names, place ≠ entry ++ [name]) →
    later.node? place = volume.node? place

namespace ChangesWithin

theorem refl (grounded : volume.Grounded) (entry : Location) (names : List String) :
    ChangesWithin volume volume entry names where
  grounded := grounded
  keeps := ⟨rfl, fun _ folder => folder⟩
  way := fun _ _ => .inl rfl
  aside := fun _ _ _ => rfl

theorem trans
    {middle : Volume} {first second : List String}
    (before : ChangesWithin volume middle entry first)
    (after : ChangesWithin middle later entry second) :
    ChangesWithin volume later entry (first ++ second) where
  grounded := after.grounded
  keeps := before.keeps.trans after.keeps
  way := by
    intro place inside
    rcases after.way place inside with same | ⟨missing, made⟩
    · rw [same]
      exact before.way place inside
    · rcases before.way place inside with sameBefore | ⟨_, madeBefore⟩
      · exact .inr ⟨sameBefore ▸ missing, made⟩
      · rw [madeBefore] at missing
        contradiction
  aside := by
    intro place outside different
    rw [List.forall_mem_append] at different
    rw [after.aside place outside different.2, before.aside place outside different.1]

theorem addFolders
    (grounded : volume.Grounded) (free : volume.Free outer) (inside : outer <+: entry) :
    ChangesWithin volume (volume.addFolders outer) entry [] where
  grounded := grounded.addFolders free
  keeps := keepsFolders_addFolders free
  way := by
    intro place _
    rw [node?_addFolders free]
    split
    · rename_i made
      have placeFree : volume.Free place := fun outer within => free outer (within.trans made)
      rcases placeFree.none_or_folder with missing | folder
      · exact .inr ⟨missing, rfl⟩
      · exact .inl folder.symm
    · exact .inl rfl
  aside := by
    intro place outside _
    rw [node?_addFolders free, if_neg]
    intro made
    exact outside (made.trans inside)

theorem putFile
    (grounded : volume.Grounded) (there : volume.node? entry = some .folder)
    (noFolder : volume.node? (entry ++ [name]) ≠ some .folder) (content : ByteArray) :
    ChangesWithin volume (volume.put (entry ++ [name]) (.file content)) entry [name] where
  grounded := grounded.putFile there noFolder content
  keeps := keepsFolders_putFile noFolder content
  way := by
    intro place inside
    left
    have different : place ≠ entry ++ [name] := by
      rintro rfl
      exact not_enter_within entry name inside
    simp [different]
  aside := by
    intro place _ different
    exact node?_put_of_ne (different name List.mem_cons_self)

/-- No file has come or gone on the way to a place that is no deeper. -/
theorem free_iff
    (changes : ChangesWithin volume later entry names)
    (noDeeper : place.length ≤ entry.length) : later.Free place ↔ volume.Free place := by
  have sameFiles {outer : Location} (inside : outer <+: place) (content : ByteArray) :
      later.node? outer = some (.file content) ↔
        volume.node? outer = some (.file content) := by
    by_cases onTheWay : outer <+: entry
    · rcases changes.way outer onTheWay with same | ⟨missing, made⟩
      · rw [same]
      · simp [missing, made]
    · rw [changes.aside outer onTheWay]
      rintro name _ rfl
      have longer := inside.length_le
      rw [List.length_append, List.length_singleton] at longer
      omega
  constructor
  · intro free outer inside content found
    exact free outer inside content ((sameFiles inside content).mpr found)
  · intro free outer inside content found
    exact free outer inside content ((sameFiles inside content).mp found)

/-- A file that is not one of those that were written is read as before. -/
theorem read_enter
    (changes : ChangesWithin volume later entry names) (grounded : volume.Grounded)
    (leads : path.Usable → volume.LeadsTo path place)
    (noDeeper : place.length ≤ entry.length) (enterable : Path.Enterable name)
    (outside : ¬place ++ [name] <+: entry)
    (different : ∀ other ∈ names, place ++ [name] ≠ entry ++ [other]) :
    later.read (path.enter name) = volume.read (path.enter name) := by
  by_cases usable : (path.enter name).Usable
  · have leadsBefore := leads (usable_of_enter usable)
    have leadsAfter := changes.keeps.leadsTo leadsBefore
    have same := changes.aside _ outside different
    by_cases free : volume.Free place
    · have freeAfter := (changes.free_iff noDeeper).mpr free
      rw [Volume.read_enter leadsBefore grounded free enterable usable.short,
        Volume.read_enter leadsAfter changes.grounded freeAfter enterable usable.short, same]
    · have blocked := fun freeAfter => free ((changes.free_iff noDeeper).mp freeAfter)
      rw [read_enter_of_blocked leadsBefore grounded free enterable usable.short,
        read_enter_of_blocked leadsAfter changes.grounded blocked enterable usable.short]
  · obtain ⟨error, _, refused⟩ := locate_of_not_usable usable
    rw [read, read, refused, refused]
    rfl

end ChangesWithin

end Assay.Volume
