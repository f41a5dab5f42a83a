import Assay.Proofs.Files.Volume

/-!
# Paths in a volume

A path leads to a place as soon as the folders on the way to that place are
there.  What an operation does with such a path depends on nothing but the nodes
of the place.
-/

namespace Assay

/-- A name that is entered, and that paths and folders can hold. -/
structure Path.Enterable (name : String) : Prop where
  notIdle : Path.isIdleName name = false
  notOuter : name ≠ ".."
  notLong : name.utf8ByteSize ≤ Volume.longestName
  noNul : '\x00' ∉ name.toList

instance (name : String) : Decidable (Path.Enterable name) :=
  decidable_of_iff
    (Path.isIdleName name = false ∧ name ≠ ".." ∧
      name.utf8ByteSize ≤ Volume.longestName ∧ '\x00' ∉ name.toList)
    ⟨fun ⟨notIdle, notOuter, notLong, noNul⟩ => ⟨notIdle, notOuter, notLong, noNul⟩,
      fun enterable => ⟨enterable.notIdle, enterable.notOuter, enterable.notLong,
        enterable.noNul⟩⟩

@[simp] theorem Path.byteCount_enter (path : Path) (name : String) :
    (path.enter name).byteCount = path.byteCount + name.utf8ByteSize + 1 := by
  simp [byteCount, enter]

namespace Volume

variable {volume : Volume} {path : Path} {place outer : Location} {name : String}

theorem follow_idle
    (folder : volume.node? place = some .folder) (idle : Path.isIdleName name = true) :
    volume.follow place name = .ok place := by
  simp [follow, folder, idle]

theorem follow_enterable
    (folder : volume.node? place = some .folder) (enterable : Path.Enterable name) :
    volume.follow place name = .ok (place ++ [name]) := by
  simp [follow, folder, enterable.notIdle, enterable.notOuter,
    Nat.not_lt.mpr enterable.notLong]

theorem follow_missing
    (missing : volume.node? place = none) (name : String) :
    volume.follow place name = .error .notFound := by
  simp [follow, missing]

theorem followAll_enter
    (volume : Volume) (start : Location) (names : List String) (name : String) :
    volume.followAll start (names ++ [name]) =
      (volume.followAll start names).bind fun place => volume.follow place name := by
  induction names generalizing start with
  | nil =>
      cases next : volume.follow start name <;>
        simp [followAll, next, bind, Except.bind]
  | cons first names induction =>
      cases next : volume.follow start first with
      | error error => simp [followAll, next, bind, Except.bind]
      | ok middle => simpa [followAll, next, bind, Except.bind] using induction middle

/-- A path is followed name by name as long as it is not too long. -/
theorem locate_enter
    (noNul : '\x00' ∉ name.toList)
    (short : (path.enter name).byteCount ≤ longestPath) :
    volume.locate (path.enter name) =
      (volume.locate path).bind fun place => volume.follow place name := by
  have pathShort : path.byteCount ≤ longestPath := by
    simp only [Path.byteCount_enter] at short
    omega
  have names : (path.enter name).names = path.names ++ [name] := rfl
  have nul : (path.enter name).names.any (fun name => name.toList.contains '\x00') =
      path.names.any fun name => name.toList.contains '\x00' := by
    simp [names, noNul]
  rw [locate, locate, nul, if_neg (Nat.not_lt.mpr short), if_neg (Nat.not_lt.mpr pathShort)]
  split
  · rfl
  · rw [names, followAll_enter]
    rfl

/-- The path leads to the place once the folders on the way are there: it goes on
from a folder that is there by names that stay or enter. -/
inductive LeadsTo (volume : Volume) : Path → Location → Prop where
  | there {path : Path} {place : Location}
      (located : volume.locate path = .ok place)
      (folder : volume.node? place = some .folder) : LeadsTo volume path place
  | stay {path : Path} {place : Location} {name : String}
      (idle : Path.isIdleName name = true)
      (leads : LeadsTo volume path place) : LeadsTo volume (path.enter name) place
  | enter {path : Path} {place : Location} {name : String}
      (enterable : Path.Enterable name)
      (leads : LeadsTo volume path place) :
      LeadsTo volume (path.enter name) (place ++ [name])

theorem noNul_of_idle (idle : Path.isIdleName name = true) : '\x00' ∉ name.toList := by
  simp only [Path.isIdleName, Bool.or_eq_true, beq_iff_eq] at idle
  rcases idle with rfl | rfl <;> decide

theorem short_of_enter
    (short : (path.enter name).byteCount ≤ longestPath) :
    path.byteCount ≤ longestPath := by
  rw [Path.byteCount_enter] at short
  omega

namespace LeadsTo

theorem locate_of_folder
    (leads : volume.LeadsTo path place) (grounded : volume.Grounded)
    (folder : volume.node? place = some .folder)
    (short : path.byteCount ≤ longestPath) : volume.locate path = .ok place := by
  induction leads with
  | there located _ => exact located
  | stay idle leads induction =>
      rw [locate_enter (noNul_of_idle idle) short,
        induction folder (short_of_enter short)]
      exact follow_idle folder idle
  | enter enterable leads induction =>
      have outer := grounded folder
      rw [locate_enter enterable.noNul short, induction outer (short_of_enter short)]
      exact follow_enterable outer enterable

theorem locate_enter
    (leads : volume.LeadsTo path place) (grounded : volume.Grounded)
    (folder : volume.node? place = some .folder) (enterable : Path.Enterable name)
    (short : (path.enter name).byteCount ≤ longestPath) :
    volume.locate (path.enter name) = .ok (place ++ [name]) := by
  rw [Volume.locate_enter enterable.noNul short,
    leads.locate_of_folder grounded folder (short_of_enter short)]
  exact follow_enterable folder enterable

/-- Nothing can be looked up where nothing is. -/
theorem locate_enter_of_missing
    (leads : volume.LeadsTo path place) (grounded : volume.Grounded)
    (free : volume.Free place) (missing : volume.node? place = none)
    (noNul : '\x00' ∉ name.toList)
    (short : (path.enter name).byteCount ≤ longestPath) :
    volume.locate (path.enter name) = .error .notFound := by
  induction leads generalizing name with
  | there _ folder =>
      rw [missing] at folder
      contradiction
  | stay idle leads induction =>
      rw [Volume.locate_enter noNul short,
        induction free missing (noNul_of_idle idle) (short_of_enter short)]
      rfl
  | enter enterable leads induction =>
      rw [Volume.locate_enter noNul short]
      rcases free.of_enter.none_or_folder with outerMissing | outerFolder
      · rw [induction free.of_enter outerMissing enterable.noNul (short_of_enter short)]
        rfl
      · rw [leads.locate_enter grounded outerFolder enterable (short_of_enter short)]
        exact follow_missing missing name

end LeadsTo

/-! ## Reading, writing and listing -/

@[simp] theorem files_read (path : Path) (volume : Volume) :
    files.read path volume = (volume.read path, volume) := rfl

@[simp] theorem files_children (path : Path) (volume : Volume) :
    files.children path volume = (volume.children path, volume) := rfl

theorem files_write_of_ok
    {later : Volume} {content : ByteArray}
    (written : volume.write path content = .ok later) :
    files.write path content volume = (.ok (), later) := by
  simp only [files, written]

theorem read_enter
    (leads : volume.LeadsTo path place) (grounded : volume.Grounded)
    (free : volume.Free place) (enterable : Path.Enterable name)
    (short : (path.enter name).byteCount ≤ longestPath) :
    volume.read (path.enter name) =
      match volume.node? (place ++ [name]) with
      | none => .error .notFound
      | some .folder => .error .isAFolder
      | some (.file content) => .ok content := by
  rcases free.none_or_folder with missing | folder
  · rw [read, leads.locate_enter_of_missing grounded free missing enterable.noNul short,
      grounded.none_of_none missing name]
    rfl
  · rw [read, leads.locate_enter grounded folder enterable short]
    rfl

theorem children_enter
    (leads : volume.LeadsTo path place) (grounded : volume.Grounded)
    (free : volume.Free place) (enterable : Path.Enterable name)
    (short : (path.enter name).byteCount ≤ longestPath) :
    volume.children (path.enter name) =
      match volume.node? (place ++ [name]) with
      | none => .error .notFound
      | some (.file _) => .error .notAFolder
      | some .folder => .ok (volume.namesIn (place ++ [name])) := by
  rcases free.none_or_folder with missing | folder
  · rw [children, leads.locate_enter_of_missing grounded free missing enterable.noNul short,
      grounded.none_of_none missing name]
    rfl
  · rw [children, leads.locate_enter grounded folder enterable short]
    rfl

theorem write_enter
    (leads : volume.LeadsTo path place) (grounded : volume.Grounded)
    (folder : volume.node? place = some .folder) (enterable : Path.Enterable name)
    (short : (path.enter name).byteCount ≤ longestPath)
    (noFolder : volume.node? (place ++ [name]) ≠ some .folder) (content : ByteArray) :
    volume.write (path.enter name) content =
      .ok (volume.put (place ++ [name]) (.file content)) := by
  have notFolder : volume.isFolder (place ++ [name]) = false := by
    unfold isFolder
    split
    · contradiction
    · rfl
  rw [write, leads.locate_enter grounded folder enterable short]
  simp only [bind, Except.bind, notFolder, Bool.false_eq_true, if_false]
  rfl

/-! ## More folders -/

/-- A volume that has kept all folders of another one. -/
structure KeepsFolders (volume later : Volume) : Prop where
  working : later.working = volume.working
  folder : ∀ place, volume.node? place = some .folder → later.node? place = some .folder

namespace KeepsFolders

variable {later : Volume}

theorem followAll
    (keeps : volume.KeepsFolders later) {names : List String}
    (followed : volume.followAll place names = .ok outer) :
    later.followAll place names = .ok outer := by
  induction names generalizing place with
  | nil => exact followed
  | cons name names induction =>
      cases found : volume.node? place with
      | none =>
          rw [Volume.followAll, follow_missing found] at followed
          contradiction
      | some node =>
          cases node with
          | file content =>
              simp [Volume.followAll, follow, found, bind, Except.bind] at followed
          | folder =>
              have same : later.follow place name = volume.follow place name := by
                simp only [follow, found, keeps.folder place found]
              cases next : volume.follow place name with
              | error error => simp [Volume.followAll, next, bind, Except.bind] at followed
              | ok middle =>
                  simp only [Volume.followAll, same, next, bind, Except.bind] at followed ⊢
                  exact induction followed

theorem locate
    (keeps : volume.KeepsFolders later) (located : volume.locate path = .ok place) :
    later.locate path = .ok place := by
  unfold Volume.locate at located ⊢
  rw [keeps.working]
  split at located
  · contradiction
  · split at located
    · contradiction
    · rename_i noNul short
      rw [if_neg noNul, if_neg short]
      exact keeps.followAll located

theorem leadsTo
    (keeps : volume.KeepsFolders later) (leads : volume.LeadsTo path place) :
    later.LeadsTo path place := by
  induction leads with
  | there located folder => exact .there (keeps.locate located) (keeps.folder _ folder)
  | stay idle _ induction => exact .stay idle induction
  | enter enterable _ induction => exact .enter enterable induction

theorem trans
    {last : Volume} (first : volume.KeepsFolders later) (second : later.KeepsFolders last) :
    volume.KeepsFolders last :=
  ⟨second.working.trans first.working, fun place folder =>
    second.folder place (first.folder place folder)⟩

end KeepsFolders

theorem keepsFolders_addFolders (free : volume.Free place) :
    volume.KeepsFolders (volume.addFolders place) where
  working := working_addFolders volume place
  folder := by
    intro other folder
    rw [node?_addFolders free]
    split
    · rfl
    · exact folder

theorem keepsFolders_putFile
    (noFolder : volume.node? (outer ++ [name]) ≠ some .folder) (content : ByteArray) :
    volume.KeepsFolders (volume.put (outer ++ [name]) (.file content)) where
  working := rfl
  folder := by
    intro place folder
    have different : place ≠ outer ++ [name] := fun replaced => noFolder (replaced ▸ folder)
    simpa [different] using folder

/-! ## Making folders -/

theorem makeFolder_of_located
    (located : volume.locate path = .ok place) :
    volume.makeFolder path =
      match volume.node? place with
      | some _ => .error .alreadyThere
      | none => .ok (volume.put place .folder) := by
  rw [makeFolder, located]
  rfl

/-- A folder that can be looked up is made unless it is there. -/
theorem ensureFolder_of_located
    (located : volume.locate path = .ok place) (free : volume.Free place) :
    volume.ensureFolder path = (.ok (), volume.addFolder place) := by
  rcases free.none_or_folder with missing | folder
  · simp [ensureFolder, makeFolder_of_located located, missing, addFolder]
  · simp [ensureFolder, makeFolder_of_located located, folder, addFolder, leadsToFolder,
      located, isFolder]

end Volume

/-- The path up to its last name that leads anywhere. -/
def Path.withoutIdleEnd (path : Path) : Path :=
  ⟨path.fromRoot, (path.names.reverse.dropWhile Path.isIdleName).reverse⟩

theorem Path.parent?_enter (path : Path) {name : String} (notIdle : isIdleName name = false) :
    (path.enter name).parent? = some path.withoutIdleEnd := by
  simp [parent?, enter, withoutIdleEnd, notIdle]

theorem Path.withoutIdleEnd_stay
    (path : Path) {name : String} (idle : isIdleName name = true) :
    (path.enter name).withoutIdleEnd = path.withoutIdleEnd := by
  simp [enter, withoutIdleEnd, idle]

theorem Path.withoutIdleEnd_enter
    (path : Path) {name : String} (notIdle : isIdleName name = false) :
    (path.enter name).withoutIdleEnd = path.enter name := by
  simp [enter, withoutIdleEnd, notIdle]

@[simp] theorem Path.length_enter (path : Path) (name : String) :
    (path.enter name).names.length = path.names.length + 1 := by
  simp [enter]

namespace Volume

variable {volume : Volume} {path : Path} {place : Location} {name : String} {levels : Nat}

/-- Making a folder and those on the way, if that works for the way alone. -/
private theorem makeFoldersWithin_of_way
    (leads : volume.LeadsTo path place) (grounded : volume.Grounded)
    (free : volume.Free (place ++ [name])) (enterable : Path.Enterable name)
    (short : (path.enter name).byteCount ≤ longestPath)
    (enough : (path.enter name).names.length ≤ levels)
    (way : volume.node? place = none → ∀ fewer, path.names.length ≤ fewer →
      makeFoldersWithin fewer volume path.withoutIdleEnd =
        (.ok (), volume.addFolders place)) :
    makeFoldersWithin levels volume (path.enter name) =
      (.ok (), volume.addFolders (place ++ [name])) := by
  rw [Path.length_enter] at enough
  rcases free.of_enter.none_or_folder with missing | folder
  · obtain ⟨fewer, rfl⟩ := Nat.exists_eq_add_of_le' (Nat.le_of_add_left_le enough)
    have notFound : volume.makeFolder (path.enter name) = .error .notFound := by
      rw [makeFolder, leads.locate_enter_of_missing grounded free.of_enter missing
        enterable.noNul short]
      rfl
    have made : (volume.addFolders place).node? place = some .folder :=
      node?_addFolders_self free.of_enter
    have located := ((keepsFolders_addFolders free.of_enter).leadsTo leads).locate_enter
      (grounded.addFolders free.of_enter) made enterable short
    rw [makeFoldersWithin.eq_def]
    simp only [notFound, Path.parent?_enter path enterable.notIdle,
      way missing fewer (Nat.le_of_succ_le_succ enough)]
    rw [ensureFolder_of_located located (free.of_enter.addFolders free), addFolders_enter]
  · have located := leads.locate_enter grounded folder enterable short
    have ensured : makeFoldersWithin levels volume (path.enter name) =
        volume.ensureFolder (path.enter name) := by
      rw [makeFoldersWithin.eq_def]
      simp only [makeFolder_of_located located]
      cases volume.node? (place ++ [name]) <;> rfl
    rw [ensured, ensureFolder_of_located located free, addFolders_enter,
      addFolders_of_folder grounded folder]

/-- The way to a place that is not there can be made. -/
theorem makeFoldersWithin_withoutIdleEnd
    (leads : volume.LeadsTo path place) (grounded : volume.Grounded)
    (free : volume.Free place) (missing : volume.node? place = none)
    (short : path.byteCount ≤ longestPath) (enough : path.names.length ≤ levels) :
    makeFoldersWithin levels volume path.withoutIdleEnd =
      (.ok (), volume.addFolders place) := by
  induction leads generalizing levels with
  | there _ folder =>
      rw [missing] at folder
      contradiction
  | stay idle leads induction =>
      rw [Path.withoutIdleEnd_stay _ idle]
      rw [Path.length_enter] at enough
      exact induction free missing (short_of_enter short) (Nat.le_of_succ_le enough)
  | enter enterable leads induction =>
      rw [Path.withoutIdleEnd_enter _ enterable.notIdle]
      exact makeFoldersWithin_of_way leads grounded free enterable short enough
        fun outerMissing _ fewerEnough =>
          induction free.of_enter outerMissing (short_of_enter short) fewerEnough

/-- A folder is made with all folders on the way to it, if no file is there. -/
theorem makeFolders_enter
    (leads : volume.LeadsTo path place) (grounded : volume.Grounded)
    (free : volume.Free (place ++ [name])) (enterable : Path.Enterable name)
    (short : (path.enter name).byteCount ≤ longestPath) :
    volume.makeFolders (path.enter name) =
      (.ok (), volume.addFolders (place ++ [name])) := by
  have some : (path.enter name).names.isEmpty = false := by simp [Path.enter]
  rw [makeFolders, some, if_neg Bool.false_ne_true]
  exact makeFoldersWithin_of_way leads grounded free enterable short (Nat.le_refl _)
    fun missing _ enough => makeFoldersWithin_withoutIdleEnd leads grounded
      free.of_enter missing (short_of_enter short) enough

end Volume

end Assay
