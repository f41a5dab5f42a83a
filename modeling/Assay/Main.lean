import Assay.CommandLine.Consultation
import Assay.Http.Wire
import Std.Async.DNS
import Std.Async.TCP

/-!
# The program

The outer layer of the command line: it answers the questions of the command
line from the files and servers at hand and prints what comes of it.  The names
in the folder of definitions are read from standard input, one to a line.
-/

namespace Assay.Program

open Std.Async Std.Net

def fileError : IO.Error → FileError
  | .noFileOrDirectory _ _ _ => .notFound
  | .inappropriateType _ _ _ => .isAFolder
  | _ => .failed

def readFile (path : Path) : IO (Except FileError ByteArray) := do
  try
    pure (.ok (← IO.FS.readBinFile path.text))
  catch error => pure (.error (fileError error))

partial def readNames (input : IO.FS.Stream) : IO (List String) := do
  let line ← input.getLine
  if line.isEmpty then return []
  let names ← readNames input
  return String.ofList (DotEnv.withoutBreak line.toList) :: names

/-- The addresses of a host. -/
def resolve (host : String) : IO (Array IPAddr) := do
  match IPv4Addr.ofString host with
  | some address => pure #[.v4 address]
  | none => (DNS.getAddrInfo host "").block

def socketAddress (number : Nat) : IPAddr → SocketAddress
  | .v4 address => .v4 ⟨address, UInt16.ofNat number⟩
  | .v6 address => .v6 ⟨address, UInt16.ofNat number⟩

partial def receiveAll (client : TCP.Socket.Client) (received : ByteArray) : IO ByteArray := do
  match ← (client.recv? 65536).block with
  | some bytes => receiveAll client (received ++ bytes)
  | none => pure received

/-- Exchange a request for the bytes of its response. -/
def talk (client : TCP.Socket.Client) (request : Request) :
    IO (Except TransportError Response) := do
  try
    (client.send (Wire.printRequest request).toByteArray).block
    let received ← receiveAll client .empty
    match (String.fromUTF8? received).bind fun text => Wire.readResponse text.toList with
    | some response => pure (.ok response)
    | none => pure (.error (.failed "Bad Status: the response cannot be read"))
  catch _ => pure (.error .interrupted)

def send (request : Request) : IO (Except TransportError Response) := do
  if request.url.scheme ≠ "http" then
    return .error (.failed (request.url.text ++ ": Unknown Scheme: no secure connections"))
  try
    let addresses ← resolve request.url.host.text
    let some address := addresses[0]? | return .error .unreachable
    let client ← TCP.Socket.Client.mk
    (client.connect (socketAddress request.url.portNumber address)).block
    talk client request
  catch _ => pure (.error .unreachable)

def answerTo (consultation : Consultation) : Question → IO Consultation
  | .file path => do
      let content ← readFile path
      pure { consultation with files := (path, content) :: consultation.files }
  | .folder path => do
      let names ← readNames (← IO.getStdin)
      pure { consultation with folders := (path, .ok names) :: consultation.folders }
  | .exchange request => do
      let response ← send request
      pure { consultation with exchanges := (request, response) :: consultation.exchanges }

/-- The folders around the working folder in which settings are looked for. -/
def levels : Nat := 32

partial def converse (environment : Environment) (arguments : List String)
    (consultation : Consultation) : IO CommandLine.Answer := do
  let uptime := (← IO.monoMsNow) / 1000
  let (answer, asked) := Consultation.run levels uptime environment arguments consultation
  match asked.question with
  | none => pure answer
  | some question => converse environment arguments (← answerTo asked question)

def settingNames : List String :=
  [Settings.localFolderVariable, Settings.remoteBaseVariable, Settings.apiKeyVariable,
    Settings.projectVariable, Settings.timeoutVariable, Settings.logLevelVariable]

def readEnvironment : IO Environment := do
  let mut environment : Environment := .empty
  for name in settingNames do
    if let some value ← IO.getEnv name then
      environment := environment.insert name value
  pure environment

def complain (complaint : List String) : IO Unit := do
  if !complaint.isEmpty then
    IO.eprintln ("Error: " ++ ": ".intercalate complaint)

end Assay.Program

def main (arguments : List String) : IO UInt32 := do
  let environment ← Assay.Program.readEnvironment
  let answer ← Assay.Program.converse environment arguments .empty
  IO.print answer.output
  Assay.Program.complain answer.complaint
  pure (UInt32.ofNat answer.code)
