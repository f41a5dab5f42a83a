import Assay.Files.Volume
import Mathlib.Data.List.Induction

/-!
# Places in a volume

What is at a place, and which names are in a folder, after a node was put
somewhere and after the folders on the way to a place were made.  In a volume
that is a tree everything but the root stands in a folder.
-/

namespace Assay

namespace Volume

variable {volume : Volume} {place outer : Location} {name : String}

theorem root_or_mem_of_node?
    {node : FileNode} (found : volume.node? place = some node) :
    (place = [] ∧ node = .folder) ∨ (place, node) ∈ volume.nodes := by
  rw [node?] at found
  split at found
  · rename_i root
    exact .inl ⟨root, (Option.some.inj found).symm⟩
  · obtain ⟨⟨known, _⟩, first, rfl⟩ := Option.map_eq_some_iff.mp found
    have same : known = place := by simpa using List.find?_some first
    exact .inr (same ▸ List.mem_of_find?_eq_some first)

/-! ## One more node -/

private theorem find?_putNode
    (location place : Location) (node : FileNode)
    (nodes : List (Location × FileNode)) :
    ((putNode location node nodes).find? (·.1 == place)).map (·.2) =
      if place = location then some node
      else (nodes.find? (·.1 == place)).map (·.2) := by
  induction nodes with
  | nil =>
      by_cases here : place = location
      · simp [putNode, here]
      · simp [putNode, here, Ne.symm here]
  | cons entry nodes induction =>
      by_cases same : entry.1 = location
      · by_cases here : place = location
        · simp [putNode, same, here]
        · simp [putNode, same, here, Ne.symm here]
      · by_cases here : entry.1 = place
        · have different : place ≠ location := here ▸ same
          simp [putNode, here, different]
        · simp [putNode, same, here, induction]

theorem node?_put
    (volume : Volume) (outer place : Location) (name : String) (node : FileNode) :
    (volume.put (outer ++ [name]) node).node? place =
      if place = outer ++ [name] then some node else volume.node? place := by
  by_cases root : place = []
  · have different : place ≠ outer ++ [name] := by simp [root]
    simp [node?, root]
  · simp only [node?, put, if_neg root, find?_putNode]

@[simp] theorem node?_put_self
    (volume : Volume) (outer : Location) (name : String) (node : FileNode) :
    (volume.put (outer ++ [name]) node).node? (outer ++ [name]) = some node := by
  rw [node?_put, if_pos rfl]

@[simp] theorem node?_put_of_ne
    {node : FileNode} (different : place ≠ outer ++ [name]) :
    (volume.put (outer ++ [name]) node).node? place = volume.node? place := by
  rw [node?_put, if_neg different]

/-- The names in a folder, in the order in which they came into being. -/
def namesIn (volume : Volume) (place : Location) : List String :=
  volume.nodes.filterMap fun entry =>
    if entry.1.dropLast = place then entry.1.getLast? else none

private theorem map_putNode_of_mem
    {location : Location} {node : FileNode} {nodes : List (Location × FileNode)}
    (known : location ∈ nodes.map (·.1)) :
    (putNode location node nodes).map (·.1) = nodes.map (·.1) := by
  induction nodes with
  | nil => contradiction
  | cons entry nodes induction =>
      by_cases same : entry.1 = location
      · simp [putNode, same]
      · have later : location ∈ nodes.map (·.1) := by
          simpa [Ne.symm same] using known
        simpa [putNode, same] using induction later

private theorem putNode_of_not_mem
    {location : Location} {node : FileNode} {nodes : List (Location × FileNode)}
    (unknown : location ∉ nodes.map (·.1)) :
    putNode location node nodes = nodes ++ [(location, node)] := by
  induction nodes with
  | nil => rfl
  | cons entry nodes induction =>
      simp only [List.map_cons, List.mem_cons, not_or] at unknown
      simpa [putNode, Ne.symm unknown.1] using induction unknown.2

private theorem namesIn_eq
    (volume : Volume) (place : Location) :
    volume.namesIn place = (volume.nodes.map (·.1)).filterMap fun location =>
      if location.dropLast = place then location.getLast? else none := by
  rw [namesIn, List.filterMap_map]
  rfl

private theorem mem_locations_iff
    (volume : Volume) (outer : Location) (name : String) :
    outer ++ [name] ∈ volume.nodes.map (·.1) ↔
      volume.node? (outer ++ [name]) ≠ none := by
  simp [node?]

theorem nodes_put_of_new
    {node : FileNode} (new : volume.node? (outer ++ [name]) = none) :
    (volume.put (outer ++ [name]) node).nodes =
      volume.nodes ++ [(outer ++ [name], node)] :=
  putNode_of_not_mem fun known => (mem_locations_iff volume outer name).mp known new

theorem namesIn_put_of_known
    {node : FileNode} (known : volume.node? (outer ++ [name]) ≠ none) :
    (volume.put (outer ++ [name]) node).namesIn place = volume.namesIn place := by
  rw [namesIn_eq, namesIn_eq, put,
    map_putNode_of_mem ((mem_locations_iff volume outer name).mpr known)]

theorem namesIn_put_of_new
    {node : FileNode} (new : volume.node? (outer ++ [name]) = none) :
    (volume.put (outer ++ [name]) node).namesIn place =
      volume.namesIn place ++ if outer = place then [name] else [] := by
  rw [namesIn_eq, namesIn_eq, nodes_put_of_new new, List.map_append,
    List.filterMap_append]
  by_cases here : outer = place <;> simp [here]

theorem namesIn_put_of_ne
    {node : FileNode} (different : outer ≠ place) :
    (volume.put (outer ++ [name]) node).namesIn place = volume.namesIn place := by
  cases found : volume.node? (outer ++ [name]) with
  | none => rw [namesIn_put_of_new found, if_neg different, List.append_nil]
  | some known => exact namesIn_put_of_known (by simp [found])

/-- A folder in which nothing is known has no names. -/
theorem namesIn_eq_nil
    (empty : ∀ name, volume.node? (place ++ [name]) = none) :
    volume.namesIn place = [] := by
  rw [namesIn_eq, List.filterMap_eq_nil_iff]
  intro location member
  rcases List.eq_nil_or_concat location with rfl | ⟨outer, name, rfl⟩
  · simp
  · rw [List.concat_eq_append] at member ⊢
    have known := (mem_locations_iff volume outer name).mp member
    have different : outer ≠ place := by
      rintro rfl
      exact known (empty name)
    simp [different]

/-! ## Trees -/

/-- Everything but the root stands in a folder. -/
def Grounded (volume : Volume) : Prop :=
  ∀ ⦃outer name node⦄, volume.node? (outer ++ [name]) = some node →
    volume.node? outer = some .folder

/-- No file is in the way to a place or stands there. -/
def Free (volume : Volume) (place : Location) : Prop :=
  ∀ outer, outer <+: place → ∀ content, volume.node? outer ≠ some (.file content)

theorem Free.of_enter (free : volume.Free (outer ++ [name])) : volume.Free outer :=
  fun place inside => free place (inside.trans (List.prefix_append outer [name]))

theorem Free.none_or_folder (free : volume.Free place) :
    volume.node? place = none ∨ volume.node? place = some .folder := by
  cases found : volume.node? place with
  | none => exact .inl rfl
  | some node =>
      cases node with
      | folder => exact .inr rfl
      | file content => exact absurd found (free place (List.prefix_refl place) content)

theorem grounded_of_nodes
    (folders : ∀ entry ∈ volume.nodes, volume.isFolder entry.1.dropLast = true) :
    volume.Grounded := by
  intro outer name node found
  rcases root_or_mem_of_node? found with ⟨root, _⟩ | known
  · simp at root
  · have folder := folders _ known
    rw [List.dropLast_concat, isFolder] at folder
    split at folder
    · assumption
    · contradiction

namespace Grounded

theorem none_of_none
    (grounded : volume.Grounded) (missing : volume.node? outer = none) (name : String) :
    volume.node? (outer ++ [name]) = none := by
  cases found : volume.node? (outer ++ [name]) with
  | none => rfl
  | some node =>
      have folder := grounded found
      rw [missing] at folder
      contradiction

theorem put
    (grounded : volume.Grounded) {node : FileNode}
    (there : volume.node? outer = some .folder)
    (kept : volume.node? (outer ++ [name]) = some .folder → node = .folder) :
    (volume.put (outer ++ [name]) node).Grounded := by
  intro place inner found known
  have placeFolder : volume.node? place = some .folder := by
    by_cases new : place ++ [inner] = outer ++ [name]
    · rw [(List.append_inj' new rfl).1]
      exact there
    · exact grounded (by simpa [new] using known)
  by_cases replaced : place = outer ++ [name]
  · subst replaced
    simp [kept placeFolder]
  · simpa [replaced] using placeFolder

theorem putFile
    (grounded : volume.Grounded) (there : volume.node? outer = some .folder)
    (noFolder : volume.node? (outer ++ [name]) ≠ some .folder) (content : ByteArray) :
    (volume.put (outer ++ [name]) (.file content)).Grounded :=
  grounded.put there fun found => absurd found noFolder

end Grounded

/-! ## Adding the folders on a way -/

@[simp] theorem not_enter_within (outer : Location) (name : String) :
    ¬outer ++ [name] <+: outer := by
  intro inside
  have shorter := inside.length_le
  rw [List.length_append, List.length_singleton] at shorter
  omega

def addFolder (volume : Volume) (place : Location) : Volume :=
  if (volume.node? place).isNone then volume.put place .folder else volume

/-- The volume with the folder of some names and all folders on the way to it,
the innermost name first. -/
def addFoldersInward (volume : Volume) : List String → Volume
  | [] => volume
  | name :: outer => (volume.addFoldersInward outer).addFolder (name :: outer).reverse

/-- The volume with a folder at a place and with all folders on the way to it. -/
def addFolders (volume : Volume) (place : Location) : Volume :=
  volume.addFoldersInward place.reverse

@[simp] theorem addFolders_root (volume : Volume) : volume.addFolders [] = volume := rfl

theorem addFolders_enter
    (volume : Volume) (place : Location) (name : String) :
    volume.addFolders (place ++ [name]) =
      (volume.addFolders place).addFolder (place ++ [name]) := by
  simp [addFolders, addFoldersInward]

theorem addFolder_of_folder
    (folder : volume.node? place = some .folder) : volume.addFolder place = volume := by
  simp [addFolder, folder]

theorem node?_addFolder
    (free : volume.node? (outer ++ [name]) = none ∨
      volume.node? (outer ++ [name]) = some .folder) :
    (volume.addFolder (outer ++ [name])).node? place =
      if place = outer ++ [name] then some .folder else volume.node? place := by
  rcases free with missing | folder
  · simp [addFolder, missing, node?_put]
  · rw [addFolder_of_folder folder]
    split
    · rename_i here
      rw [here, folder]
    · rfl

theorem node?_addFolders
    (free : volume.Free place) (other : Location) :
    (volume.addFolders place).node? other =
      if other <+: place then some .folder else volume.node? other := by
  induction place using List.reverseRecOn generalizing other with
  | nil =>
      simp only [addFolders_root]
      split
      · rename_i inside
        rw [List.prefix_nil.mp inside]
        rfl
      · rfl
  | append_singleton outer name induction =>
      have before := induction free.of_enter
      have known : (volume.addFolders outer).node? (outer ++ [name]) = none ∨
          (volume.addFolders outer).node? (outer ++ [name]) = some .folder := by
        simpa [before] using free.none_or_folder
      rw [addFolders_enter, node?_addFolder known, before]
      simp only [List.prefix_concat_iff]
      by_cases here : other = outer ++ [name] <;> simp [here]

@[simp] theorem node?_addFolders_self
    (free : volume.Free place) : (volume.addFolders place).node? place = some .folder := by
  simp [node?_addFolders free]

theorem namesIn_addFolders
    (free : volume.Free place) {other : Location}
    (aside : ∀ name, ¬other ++ [name] <+: place) :
    (volume.addFolders place).namesIn other = volume.namesIn other := by
  induction place using List.reverseRecOn with
  | nil => rfl
  | append_singleton outer name induction =>
      have before := induction free.of_enter fun inner inside =>
        aside inner (inside.trans (List.prefix_append outer [name]))
      have different : outer ≠ other := by
        rintro rfl
        exact aside name (List.prefix_refl _)
      rw [addFolders_enter, addFolder]
      split
      · rename_i missing
        rw [namesIn_put_of_new (Option.isNone_iff_eq_none.mp missing), before,
          if_neg different, List.append_nil]
      · exact before

theorem namesIn_addFolders_enter
    (free : volume.Free (outer ++ [name])) :
    (volume.addFolders (outer ++ [name])).namesIn outer =
      volume.namesIn outer ++
        if (volume.node? (outer ++ [name])).isNone then [name] else [] := by
  have before : (volume.addFolders outer).node? (outer ++ [name]) =
      volume.node? (outer ++ [name]) := by
    simp [node?_addFolders free.of_enter]
  rw [addFolders_enter, addFolder, before]
  split
  · rename_i missing
    rw [namesIn_put_of_new (by rw [before, Option.isNone_iff_eq_none.mp missing]),
      if_pos rfl, namesIn_addFolders free.of_enter (not_enter_within outer)]
  · rw [namesIn_addFolders free.of_enter (not_enter_within outer), List.append_nil]

theorem addFolders_of_folder
    (grounded : volume.Grounded) (folder : volume.node? place = some .folder) :
    volume.addFolders place = volume := by
  induction place using List.reverseRecOn with
  | nil => rfl
  | append_singleton outer name induction =>
      rw [addFolders_enter, induction (grounded folder), addFolder_of_folder folder]

theorem Free.addFolders
    (free : volume.Free place) {other : Location} (otherFree : volume.Free other) :
    (volume.addFolders place).Free other := by
  intro outer inside content found
  rw [node?_addFolders free] at found
  split at found
  · exact FileNode.noConfusion (Option.some.inj found)
  · exact otherFree outer inside content found

theorem Grounded.addFolders
    (grounded : volume.Grounded) (free : volume.Free place) :
    (volume.addFolders place).Grounded := by
  induction place using List.reverseRecOn with
  | nil => exact grounded
  | append_singleton outer name induction =>
      rw [addFolders_enter, addFolder]
      split
      · exact (induction free.of_enter).put (node?_addFolders_self free.of_enter)
          fun _ => rfl
      · exact induction free.of_enter

@[simp] theorem working_addFolders (volume : Volume) (place : Location) :
    (volume.addFolders place).working = volume.working := by
  induction place using List.reverseRecOn with
  | nil => rfl
  | append_singleton outer name induction =>
      rw [addFolders_enter, addFolder]
      split <;> exact induction

end Volume

end Assay
