import Assay.Proofs.Files.Volume.Change

/-!
# Media on which operations fail

A medium is a volume with a plan of which of its operations fail.  An operation that
fails by the plan can leave a part of its work: some of the folders that it was to
make, or a file that is not what it was and not what it was to become.
-/

namespace Assay

/-- What an operation leaves that fails by a plan. -/
structure Fault where
  /-- How many folders were still made. -/
  made : Nat
  /-- What a file holds afterwards, unless it is as it was. -/
  written : Option ByteArray

structure Medium where
  volume : Volume
  faults : Nat → Option Fault
  /-- How many operations there have been. -/
  operations : Nat

namespace Medium

/-- A medium on which no operation fails by a plan. -/
def sound (volume : Volume) : Medium := ⟨volume, fun _ => none, 0⟩

def fault? (medium : Medium) : Option Fault := medium.faults medium.operations

/-- The medium after one more operation. -/
def after (medium : Medium) (volume : Volume) : Medium :=
  { medium with volume := volume, operations := medium.operations + 1 }

/-- The first of the folders that are made for a path. -/
def makeFirst (volume : Volume) (path : Path) (count : Nat) : Volume :=
  { volume with nodes := (volume.makeFolders path).2.nodes.take (volume.nodes.length + count) }

def overwrite (volume : Volume) (path : Path) (written : Option ByteArray) : Volume :=
  match written with
  | none => volume
  | some content => (Volume.files.write path content volume).2

/-- An operation that leaves the volume as it is. -/
def inquire {α : Type} (ask : Volume → Except FileError α) (medium : Medium) :
    Except FileError α × Medium :=
  match medium.fault? with
  | some _ => (.error .failed, medium.after medium.volume)
  | none => (ask medium.volume, medium.after medium.volume)

/-- An operation that changes the volume. -/
def change (act : Volume → Except FileError Unit × Volume) (leave : Fault → Volume → Volume)
    (medium : Medium) : Except FileError Unit × Medium :=
  match medium.fault? with
  | some fault => (.error .failed, medium.after (leave fault medium.volume))
  | none => ((act medium.volume).1, medium.after (act medium.volume).2)

/-- The operations on a medium. -/
def files : FileSystem Medium where
  read := fun path => inquire fun volume => volume.read path
  write := fun path content =>
    change (Volume.files.write path content) fun fault volume =>
      overwrite volume path fault.written
  makeFolders := fun path =>
    change (fun volume => volume.makeFolders path) fun fault volume =>
      makeFirst volume path fault.made
  children := fun path => inquire fun volume => volume.children path

variable {path : Path} {place : Location} {name : String}

theorem inquire_eq
    {α : Type} (ask : Volume → Except FileError α) (medium : Medium) :
    ∃ answer, inquire ask medium = (answer, medium.after medium.volume) ∧
      (answer = ask medium.volume ∨ answer = .error .failed) := by
  unfold inquire
  cases medium.fault? with
  | none => exact ⟨_, rfl, .inl rfl⟩
  | some fault => exact ⟨_, rfl, .inr rfl⟩

/-! ## Making folders -/

/-- The first of the folders on the way to a place are the folders on the way to one
of its outer places. -/
theorem take_addFolders
    (volume : Volume) (place : Location) {count : Nat} (enough : volume.nodes.length ≤ count) :
    ∃ outer, outer <+: place ∧
      { volume with nodes := (volume.addFolders place).nodes.take count } =
        volume.addFolders outer := by
  induction place using List.reverseRecOn with
  | nil =>
      refine ⟨[], List.prefix_rfl, ?_⟩
      rw [Volume.addFolders_root, List.take_of_length_le enough]
  | append_singleton place name induction =>
      obtain ⟨outer, inside, taken⟩ := induction
      have further : outer <+: place ++ [name] := inside.trans (List.prefix_append place [name])
      cases known : (volume.addFolders place).node? (place ++ [name]) with
      | some node =>
          refine ⟨outer, further, ?_⟩
          rw [Volume.addFolders_enter, Volume.addFolder, known]
          exact taken
      | none =>
          have added : (volume.addFolders (place ++ [name])).nodes =
              (volume.addFolders place).nodes ++ [(place ++ [name], .folder)] := by
            rw [Volume.addFolders_enter, Volume.addFolder, known]
            exact Volume.nodes_put_of_new known
          by_cases all : count ≤ (volume.addFolders place).nodes.length
          · refine ⟨outer, further, ?_⟩
            rw [added, List.take_append_of_le_length all]
            exact taken
          · refine ⟨place ++ [name], List.prefix_rfl, ?_⟩
            rw [List.take_of_length_le]
            · rw [← Volume.working_addFolders volume (place ++ [name])]
            · rw [added, List.length_append, List.length_singleton]
              omega

/-- Making a folder makes folders on the way to it, and all of them if it succeeds. -/
theorem makeFolders_enter
    (medium : Medium) (grounded : medium.volume.Grounded)
    (leads : path.Usable → medium.volume.LeadsTo path place)
    (enterable : (path.enter name).Usable → Path.Enterable name) :
    ∃ answer outer,
      files.makeFolders (path.enter name) medium =
          (answer, medium.after (medium.volume.addFolders outer)) ∧
        outer <+: place ++ [name] ∧
        medium.volume.Free outer ∧
        (answer = .ok () → outer = place ++ [name]) := by
  simp only [files, change]
  rcases Volume.makeFolders_cases grounded leads enterable with ⟨free, made⟩ | ⟨error, failed⟩
  · simp only [made]
    cases medium.fault? with
    | none => exact ⟨_, place ++ [name], rfl, List.prefix_rfl, free, fun _ => rfl⟩
    | some fault =>
        obtain ⟨outer, inside, taken⟩ := take_addFolders medium.volume (place ++ [name])
          (Nat.le_add_right medium.volume.nodes.length fault.made)
        refine ⟨.error .failed, outer, ?_, inside, ?_, by simp⟩
        · simp only [makeFirst, made, taken]
        · intro inner within
          exact free inner (within.trans inside)
  · have rootFree : medium.volume.Free [] := grounded.free_of_folder rfl
    have unchanged (count : Nat) :
        makeFirst medium.volume (path.enter name) count = medium.volume := by
      rw [makeFirst, failed, List.take_of_length_le (Nat.le_add_right _ count)]
    simp only [failed, unchanged]
    cases medium.fault? with
    | none => exact ⟨_, [], rfl, List.nil_prefix, rootFree, by simp⟩
    | some fault => exact ⟨_, [], rfl, List.nil_prefix, rootFree, by simp⟩

/-! ## Writing -/

/-- What a write leaves on a medium: the file that was to be written, or, if it fails,
the volume as it was but for the file that a fault of the plan left. -/
inductive WriteLeaves (medium : Medium) (path : Path) (spot : Location) (content : ByteArray) :
    Except FileError Unit → Volume → Prop where
  | written (usable : path.Usable) (noFolder : medium.volume.node? spot ≠ some .folder) :
      WriteLeaves medium path spot content (.ok ()) (medium.volume.put spot (.file content))
  | unchanged (error : FileError) :
      WriteLeaves medium path spot content (.error error) medium.volume
  | torn {fault : Fault} {rest : ByteArray} (error : FileError)
      (planned : medium.fault? = some fault) (left : fault.written = some rest)
      (noFolder : medium.volume.node? spot ≠ some .folder) :
      WriteLeaves medium path spot content (.error error) (medium.volume.put spot (.file rest))

theorem write_enter
    (medium : Medium) (grounded : medium.volume.Grounded)
    (leads : path.Usable → medium.volume.LeadsTo path place)
    (folder : medium.volume.node? place = some .folder) (enterable : Path.Enterable name)
    (content : ByteArray) :
    ∃ answer later,
      files.write (path.enter name) content medium = (answer, medium.after later) ∧
        medium.WriteLeaves (path.enter name) (place ++ [name]) content answer later := by
  simp only [files, change]
  cases planned : medium.fault? with
  | none =>
      rcases Volume.write_cases grounded leads folder enterable content with
        ⟨usable, noFolder, written⟩ | ⟨error, failed⟩
      · simp only [written]
        exact ⟨_, _, rfl, .written usable noFolder⟩
      · simp only [failed]
        exact ⟨_, _, rfl, .unchanged error⟩
  | some fault =>
      cases left : fault.written with
      | none =>
          simp only [left, overwrite]
          exact ⟨_, _, rfl, .unchanged _⟩
      | some rest =>
          rcases Volume.write_cases grounded leads folder enterable rest with
            ⟨_, noFolder, written⟩ | ⟨error, failed⟩
          · simp only [left, overwrite, written]
            exact ⟨_, _, rfl, .torn _ planned left noFolder⟩
          · simp only [left, overwrite, failed]
            exact ⟨_, _, rfl, .unchanged _⟩

/-- An operation that leaves no part of its work in a file, should it fail by the
plan. -/
def TearsNothing (medium : Medium) (operation : Nat) : Prop :=
  ∀ fault, medium.faults operation = some fault → fault.written = none

theorem tearsNothing_sound (volume : Volume) (operation : Nat) :
    (sound volume).TearsNothing operation := by
  intro fault planned
  simp [sound] at planned

namespace WriteLeaves

variable {medium : Medium} {content : ByteArray} {answer : Except FileError Unit}
  {later : Volume}

theorem changes
    (leaves : medium.WriteLeaves path (place ++ [name]) content answer later)
    (grounded : medium.volume.Grounded) (folder : medium.volume.node? place = some .folder) :
    medium.volume.ChangesWithin later place [name] := by
  cases leaves with
  | written usable noFolder => exact .putFile grounded folder noFolder content
  | unchanged error => exact .refl grounded place [name]
  | torn error planned left noFolder => exact .putFile grounded folder noFolder _

theorem unchanged_of_error
    {spot : Location} {error : FileError}
    (leaves : medium.WriteLeaves path spot content (.error error) later)
    (whole : medium.TearsNothing medium.operations) : later = medium.volume := by
  cases leaves with
  | unchanged => rfl
  | torn _ planned left noFolder =>
      rw [whole _ planned] at left
      contradiction

end WriteLeaves

end Medium

end Assay
