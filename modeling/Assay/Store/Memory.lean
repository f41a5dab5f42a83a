import Assay.NameTable
import Assay.Store

/-!
# Stores in memory

A store in memory keeps the last save of every identity and counts its
versions.
-/

namespace Assay

structure Memory where
  /-- Metadata and payload by the text of an identity. -/
  entries : NameTable (Metadata × Payload)
  /-- The version of the next save, unless it is the one after the last. -/
  nextVersion : Option Version

namespace Memory

def empty : Memory := ⟨.empty, none⟩

def load (memory : Memory) (identity : Identity) : Option Metadata :=
  (memory.entries.find? identity.text).map (·.1)

def payload (memory : Memory) (identity : Identity) : Option Payload :=
  (memory.entries.find? identity.text).map (·.2)

/-- The version after that of the last save, from one on. -/
def versionAfter (memory : Memory) (identity : Identity) : Version :=
  (((memory.load identity).bind (·.version)).getD 0) + 1

/-- Keep an entry under a name. -/
def put (memory : Memory) (name : String) (metadata : Metadata) (payload : Payload) : Memory :=
  { memory with entries := memory.entries.insert name (metadata, payload) }

def save (memory : Memory) (metadata : Metadata) (payload : Payload) : Version × Memory :=
  let version := memory.nextVersion.getD (memory.versionAfter metadata.identity)
  let changed := memory.put metadata.identity.text (metadata.withVersion version) payload
  (version, { changed with nextVersion := none })

/-- The metadata of all entries, in ascending order of their names. -/
def list (memory : Memory) : List Metadata := memory.entries.entries.map (·.2.1)

def store : DefinitionStore Memory where
  load := fun identity memory => (.ok (memory.load identity), memory)
  save := fun metadata payload memory =>
    let (version, memory) := memory.save metadata payload
    (.ok version, memory)
  list := fun memory => (.ok memory.list, memory)

end Memory

end Assay
