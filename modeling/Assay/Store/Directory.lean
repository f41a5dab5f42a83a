import Assay.Files.FileSystem
import Assay.Store

/-!
# Stores in folders

Every definition has a folder of its own below the root of the store, named by
its identity.  One file in it holds the metadata as JSON, another the payload.
A save reads the version that is there and writes the next one.
-/

namespace Assay

namespace Directory

variable {σ : Type}

def definitionsFolder (root : Path) : Path := root.enter "tests"

def entryFolder (root : Path) (identity : Identity) : Path :=
  (definitionsFolder root).enter identity.text

def metadataFile (folder : Path) : Path := folder.enter "meta.json"

def payloadFile (folder : Path) : Path := folder.enter "data.bin"

def refuse {α : Type} (error : StoreError) (state : σ) : CallResult σ α :=
  (.error (.refused error), state)

def refuseFile {α : Type} (error : FileError) (state : σ) : CallResult σ α :=
  refuse (.io error.message) state

/-- The metadata that the bytes of a file hold. -/
def decodeMetadata (bytes : ByteArray) : Except StoreError Metadata :=
  match String.fromUTF8? bytes with
  | none => .error (.io FileError.invalidText.message)
  | some text =>
      match Metadata.decode.readText text with
      | .ok metadata => .ok metadata
      | .error error => .error (.json error)

def encodeMetadata (metadata : Metadata) : ByteArray := metadata.toJson.indented.toByteArray

/-- Read a file of metadata; a file that is not there holds none. -/
def readMetadata (files : FileSystem σ) (path : Path) (state : σ) :
    CallResult σ (Option Metadata) :=
  match files.read path state with
  | (.error .notFound, state) => (.ok none, state)
  | (.error error, state) => refuseFile error state
  | (.ok bytes, state) =>
      match decodeMetadata bytes with
      | .ok metadata => (.ok (some metadata), state)
      | .error error => refuse error state

def load (files : FileSystem σ) (root : Path) (identity : Identity) (state : σ) :
    CallResult σ (Option Metadata) :=
  readMetadata files (metadataFile (entryFolder root identity)) state

/-- The payload of the last save. -/
def payload (files : FileSystem σ) (root : Path) (identity : Identity) (state : σ) :
    CallResult σ (Option Payload) :=
  match files.read (payloadFile (entryFolder root identity)) state with
  | (.error .notFound, state) => (.ok none, state)
  | (.error error, state) => refuseFile error state
  | (.ok bytes, state) => (.ok (some bytes), state)

/-- The version after that of the metadata that is there. -/
def nextVersion (previous : Option Metadata) : Version :=
  ((previous.bind (·.version)).getD 0) + 1

def save (files : FileSystem σ) (root : Path) (metadata : Metadata) (payload : Payload)
    (state : σ) : CallResult σ Version :=
  let folder := entryFolder root metadata.identity
  match files.makeFolders folder state with
  | (.error error, state) => refuseFile error state
  | (.ok (), state) =>
      match readMetadata files (metadataFile folder) state with
      | (.error failure, state) => (.error failure, state)
      | (.ok previous, state) =>
          let version := nextVersion previous
          let stored := metadata.withVersion version
          match files.write (metadataFile folder) (encodeMetadata stored) state with
          | (.error error, state) => refuseFile error state
          | (.ok (), state) =>
              match files.write (payloadFile folder) payload state with
              | (.error error, state) => refuseFile error state
              | (.ok (), state) => (.ok version, state)

/-- The metadata in some folders; a folder without metadata is passed over. -/
def readAll (files : FileSystem σ) (root : Path) :
    List String → σ → CallResult σ (List Metadata)
  | [], state => (.ok [], state)
  | name :: rest, state =>
      match readMetadata files (metadataFile ((definitionsFolder root).enter name)) state with
      | (.error failure, state) => (.error failure, state)
      | (.ok found, state) =>
          match readAll files root rest state with
          | (.error failure, state) => (.error failure, state)
          | (.ok others, state) => (.ok (found.toList ++ others), state)

def list (files : FileSystem σ) (root : Path) (state : σ) : CallResult σ (List Metadata) :=
  match files.children (definitionsFolder root) state with
  | (.error .notFound, state) => (.ok [], state)
  | (.error error, state) => refuseFile error state
  | (.ok names, state) =>
      match readAll files root names state with
      | (.error failure, state) => (.error failure, state)
      | (.ok definitions, state) => (.ok (Metadata.sortForListing definitions), state)

/-- The store below a root. -/
def store (files : FileSystem σ) (root : Path) : DefinitionStore σ where
  load := load files root
  save := save files root
  list := list files root

end Directory

end Assay
