import Assay.CommandLine

/-!
# Consultations

The command line asks for the contents of files, for the names in folders and
for the answers of servers.  A consultation holds the answers that are known.
Where one is missing the command line comes to an end with an open question; it
can be run again when the answer is there.
-/

namespace Assay

inductive Question where
  | file (path : Path)
  | folder (path : Path)
  | exchange (request : Request)
deriving DecidableEq

structure Consultation where
  files : List (Path × Except FileError ByteArray)
  folders : List (Path × Except FileError (List String))
  exchanges : List (Request × Except TransportError Response)
  /-- The first question without an answer. -/
  question : Option Question

namespace Consultation

def empty : Consultation := ⟨[], [], [], none⟩

def ask (consultation : Consultation) (question : Question) : Consultation :=
  { consultation with question := consultation.question.or (some question) }

def readFile (path : Path) (consultation : Consultation) :
    Except FileError ByteArray × Consultation :=
  match consultation.files.find? (·.1 == path) with
  | some (_, known) => (known, consultation)
  | none => (.error .failed, consultation.ask (.file path))

def readFolder (path : Path) (consultation : Consultation) :
    Except FileError (List String) × Consultation :=
  match consultation.folders.find? (·.1 == path) with
  | some (_, known) => (known, consultation)
  | none => (.error .failed, consultation.ask (.folder path))

def exchange (request : Request) (consultation : Consultation) :
    Except TransportError Response × Consultation :=
  match consultation.exchanges.find? (·.1 == request) with
  | some (_, known) => (known, consultation)
  | none => (.error .interrupted, consultation.ask (.exchange request))

/-- Files that can be read but not changed. -/
def fileSystem : FileSystem Consultation where
  read := readFile
  write := fun _ _ consultation => (.error .failed, consultation)
  makeFolders := fun _ consultation => (.error .failed, consultation)
  children := readFolder

/-- Run the command line with what is known. -/
def run (levels uptime : Nat) (environment : Environment) (arguments : List String)
    (consultation : Consultation) : CommandLine.Answer × Consultation :=
  CommandLine.run fileSystem exchange levels uptime environment arguments
    { consultation with question := none }

end Consultation

end Assay
