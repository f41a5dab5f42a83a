import Assay.NameTable
import Assay.Text.Blank

/-!
# Settings

Settings come from the variables of an environment.  A variable that is not set
leaves its default; what is wrong with the variables is told one at a time, in
a fixed order.
-/

namespace Assay

abbrev Environment := NameTable String

inductive SettingsError where
  | missingVariable (name : String)
  | invalidValue (name reason : String)
deriving DecidableEq

def SettingsError.message : SettingsError → String
  | .missingVariable name => "Missing required environment variable: " ++ name
  | .invalidValue name reason => "Invalid value for " ++ name ++ ": " ++ reason

structure Settings where
  /-- The root of the store in folders. -/
  localFolder : String
  /-- The base address of the store behind a server. -/
  remoteBase : Option String
  apiKey : String
  project : String
  /-- Seconds that a request may take. -/
  requestTimeout : Nat
  logLevel : String
deriving DecidableEq

namespace Settings

def localFolderVariable : String := "CHECK_SUITE_LOCAL_DIR"

def remoteBaseVariable : String := "CHECK_SUITE_REMOTE_URL"

def apiKeyVariable : String := "CHECK_SUITE_API_KEY"

def projectVariable : String := "CHECK_SUITE_PROJECT"

def timeoutVariable : String := "REQUEST_TIMEOUT"

def logLevelVariable : String := "LOG_LEVEL"

def default : Settings where
  localFolder := ".check-suite"
  remoteBase := none
  apiKey := ""
  project := "default"
  requestTimeout := 10
  logLevel := "error"

/-- The base address, if one is set that is not blank. -/
def remoteBaseIn (environment : Environment) : Option String :=
  (environment.find? remoteBaseVariable).filter fun base => !Text.isBlankText base

def isWebAddress (base : String) : Bool :=
  "http://".toList.isPrefixOf base.toList || "https://".toList.isPrefixOf base.toList

/-- A number of 64 bits in decimal digits, maybe with a plus sign in front. -/
def readSeconds (text : String) : Option Nat :=
  let digits :=
    match text.toList with
    | '+' :: rest => rest
    | characters => characters
  let seconds := Nat.ofDigitChars 10 digits 0
  if !digits.isEmpty && digits.all Char.isDigit && seconds < UInt64.size then some seconds else none

/-- A base address needs the scheme of the web, and a key to go with it. -/
def checkRemote (remoteBase : Option String) (apiKey : String) : Except SettingsError Unit :=
  match remoteBase with
  | none => .ok ()
  | some base =>
      if !isWebAddress base then
        .error (.invalidValue remoteBaseVariable "Must start with http:// or https://")
      else if Text.isBlankText apiKey then .error (.missingVariable apiKeyVariable)
      else .ok ()

def checkProject (project : String) : Except SettingsError Unit :=
  if Text.isBlankText project then .error (.invalidValue projectVariable "Cannot be empty")
  else .ok ()

def timeoutIn (environment : Environment) : Except SettingsError Nat :=
  match environment.find? timeoutVariable with
  | none => .ok default.requestTimeout
  | some text =>
      match readSeconds text with
      | some seconds => .ok seconds
      | none =>
          .error (.invalidValue timeoutVariable ("Must be a positive number, got: " ++ text))

def ofEnvironment (environment : Environment) : Except SettingsError Settings := do
  let remoteBase := remoteBaseIn environment
  let apiKey := (environment.find? apiKeyVariable).getD default.apiKey
  checkRemote remoteBase apiKey
  let project := (environment.find? projectVariable).getD default.project
  checkProject project
  let requestTimeout ← timeoutIn environment
  pure {
    localFolder := (environment.find? localFolderVariable).getD default.localFolder
    remoteBase := remoteBase
    apiKey := apiKey
    project := project
    requestTimeout := requestTimeout
    logLevel := (environment.find? logLevelVariable).getD default.logLevel }

end Settings

end Assay
