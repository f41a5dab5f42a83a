import Assay.Files.FileSystem

/-!
# Volumes

A volume is a tree of folders and files in memory.  A path is followed name by
name, and every name needs a folder to be looked up in.  The name `.` stays in
a folder, the name `..` leaves it; all other names are entered.
-/

namespace Assay

inductive FileNode where
  | folder
  | file (content : ByteArray)

/-- The names that lead from the root to a node. -/
abbrev Location := List String

structure Volume where
  /-- Everything but the root, which is always there. -/
  nodes : List (Location × FileNode)
  /-- Where paths start that do not start from the root. -/
  working : Location

namespace Volume

def empty : Volume := ⟨[], []⟩

def node? (volume : Volume) (location : Location) : Option FileNode :=
  if location = [] then some .folder
  else (volume.nodes.find? (·.1 == location)).map (·.2)

def isFolder (volume : Volume) (location : Location) : Bool :=
  match volume.node? location with
  | some .folder => true
  | _ => false

/-- Replace the node of a location, or add one. -/
def putNode (location : Location) (node : FileNode) :
    List (Location × FileNode) → List (Location × FileNode)
  | [] => [(location, node)]
  | entry :: rest =>
      if entry.1 = location then (location, node) :: rest
      else entry :: putNode location node rest

def put (volume : Volume) (location : Location) (node : FileNode) : Volume :=
  { volume with nodes := putNode location node volume.nodes }

/-! ## Following a path -/

/-- The bytes that one name may take. -/
def longestName : Nat := 255

/-- The bytes that a path may take. -/
def longestPath : Nat := 4095

/-- Where a name leads from a location. -/
def follow (volume : Volume) (location : Location) (name : String) : Except FileError Location :=
  match volume.node? location with
  | none => .error .notFound
  | some (.file _) => .error .notAFolder
  | some .folder =>
      if Path.isIdleName name then .ok location
      else if name = ".." then .ok location.dropLast
      else if longestName < name.utf8ByteSize then .error .nameTooLong
      else .ok (location ++ [name])

def followAll (volume : Volume) : Location → List String → Except FileError Location
  | location, [] => .ok location
  | location, name :: rest => do
      let next ← volume.follow location name
      followAll volume next rest

/-- Where a path leads.  There need not be anything, but everything on the way
has to be a folder. -/
def locate (volume : Volume) (path : Path) : Except FileError Location :=
  if path.names.any fun name => name.toList.contains '\x00' then .error .invalidName
  else if longestPath < path.byteCount then .error .nameTooLong
  else volume.followAll (if path.fromRoot then [] else volume.working) path.names

/-! ## Operations -/

def read (volume : Volume) (path : Path) : Except FileError ByteArray := do
  let location ← volume.locate path
  match volume.node? location with
  | none => throw .notFound
  | some .folder => throw .isAFolder
  | some (.file content) => pure content

/-- The volume with a file written. -/
def write (volume : Volume) (path : Path) (content : ByteArray) : Except FileError Volume := do
  let location ← volume.locate path
  if volume.isFolder location then throw .isAFolder
  pure (volume.put location (.file content))

/-- The volume with one more folder, in a folder that is there. -/
def makeFolder (volume : Volume) (path : Path) : Except FileError Volume := do
  let location ← volume.locate path
  match volume.node? location with
  | some _ => throw .alreadyThere
  | none => pure (volume.put location .folder)

/-- Whether a path leads to a folder. -/
def leadsToFolder (volume : Volume) (path : Path) : Bool :=
  match volume.locate path with
  | .ok location => volume.isFolder location
  | .error _ => false

/-- The names in a folder, in the order in which they came into being. -/
def children (volume : Volume) (path : Path) : Except FileError (List String) := do
  let location ← volume.locate path
  match volume.node? location with
  | none => throw .notFound
  | some (.file _) => throw .notAFolder
  | some .folder =>
      pure (volume.nodes.filterMap fun entry =>
        if entry.1.dropLast = location then entry.1.getLast? else none)

/-- Make a folder that may be there already. -/
def ensureFolder (volume : Volume) (path : Path) : Except FileError Unit × Volume :=
  match volume.makeFolder path with
  | .ok volume => (.ok (), volume)
  | .error error => if volume.leadsToFolder path then (.ok (), volume) else (.error error, volume)

/-- Make a folder and, where it has nothing to be in, first the folders on the
way to it; a level of the tree is used up for each of them. -/
def makeFoldersWithin : Nat → Volume → Path → Except FileError Unit × Volume
  | levels, volume, path =>
      match volume.makeFolder path with
      | .error .notFound =>
          match levels, path.parent? with
          | levels + 1, some outer =>
              match makeFoldersWithin levels volume outer with
              | (.error error, volume) => (.error error, volume)
              | (.ok (), volume) => volume.ensureFolder path
          | _, _ => (.error .notFound, volume)
      | _ => volume.ensureFolder path

def makeFolders (volume : Volume) (path : Path) : Except FileError Unit × Volume :=
  if path.names.isEmpty then (.ok (), volume)
  else makeFoldersWithin path.names.length volume path

/-- The volume with a file written, and with the folders on the way to it. -/
def place (volume : Volume) (path : Path) (content : ByteArray) : Except FileError Volume :=
  match path.parent? with
  | none => volume.write path content
  | some outer => (volume.makeFolders outer).2.write path content

/-- Everything below a location by its path from there, in ascending order.  The
path of a folder ends in a slash. -/
def below (volume : Volume) (location : Location) : List (String × FileNode) :=
  let inner := volume.nodes.filterMap fun (place, node) =>
    if location.isPrefixOf place && place != location then
      let path := "/".intercalate (place.drop location.length)
      some (match node with
        | .folder => (path ++ "/", node)
        | .file _ => (path, node))
    else none
  inner.mergeSort fun left right => !decide (right.1 < left.1)

/-- The operations on a volume. -/
def files : FileSystem Volume where
  read := fun path volume => (volume.read path, volume)
  write := fun path content volume =>
    match volume.write path content with
    | .ok changed => (.ok (), changed)
    | .error error => (.error error, volume)
  makeFolders := fun path volume => volume.makeFolders path
  children := fun path volume => (volume.children path, volume)

end Volume

end Assay
