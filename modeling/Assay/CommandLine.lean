import Assay.Settings.DotEnv
import Assay.Store.Directory
import Assay.Store.Remote

/-!
# The command line

The command line inspects a store of definitions.  Output is only written when
a command has succeeded; an error is a chain of texts, the outermost first.
-/

namespace Assay

namespace Settings

/-- The server to keep definitions on, if one is set. -/
def remote? (settings : Settings) (uptime : Nat) : Option Remote :=
  settings.remoteBase.map fun base =>
    ⟨base, settings.apiKey, settings.project, settings.requestTimeout, uptime⟩

/-- The store that the settings choose: the server if there is one, else the
folder. -/
def store {σ : Type} (settings : Settings) (files : FileSystem σ) (send : Transport σ)
    (uptime : Nat) : DefinitionStore σ :=
  match settings.remote? uptime with
  | some remote => remote.store send
  | none => Directory.store files (Path.ofText settings.localFolder)

end Settings

namespace CommandLine

inductive Command where
  | listAll
  | showOne (identity : String)
deriving DecidableEq

/-- What a help text is about. -/
inductive Topic where
  | program
  | listAll
  | showOne
  | help
deriving DecidableEq

inductive Invocation where
  | command (command : Command)
  | help (topic : Topic)
  | version
  | misuse
deriving DecidableEq

/-! ## Reading arguments

Arguments are taken one after the other; the first one that is no good, or that
asks for help, decides.
-/

/-- A short or long option that asks for something in place of a command. -/
def asksFor (short : Char) (long argument : String) : Bool :=
  argument == long || (['-', short].isPrefixOf argument.toList)

def asksForHelp (argument : String) : Bool := asksFor 'h' "--help" argument

def asksForVersion (argument : String) : Bool := asksFor 'V' "--version" argument

/-- An argument that can only be an option.  A single hyphen is none. -/
def looksLikeOption (argument : String) : Bool :=
  ['-'].isPrefixOf argument.toList && argument != "-"

def readList : List String → Invocation
  | [] => .command .listAll
  | ["--"] => .command .listAll
  | first :: _ => if asksForHelp first then .help .listAll else .misuse

/-- The arguments after the identity of a definition. -/
def readShowEnd (identity : String) : List String → Invocation
  | [] => .command (.showOne identity)
  | ["--"] => .command (.showOne identity)
  | first :: _ => if asksForHelp first then .help .showOne else .misuse

def readShow : List String → Invocation
  | [] => .misuse
  | ["--", identity] => .command (.showOne identity)
  | first :: rest =>
      if asksForHelp first then .help .showOne
      else if looksLikeOption first then .misuse
      else readShowEnd first rest

def readHelp : List String → Invocation
  | [] => .help .program
  | ["list"] => .help .listAll
  | ["show"] => .help .showOne
  | ["help"] => .help .help
  | _ => .misuse

def read : List String → Invocation
  | [] => .misuse
  | first :: rest =>
      if first = "list" then readList rest
      else if first = "show" then readShow rest
      else if first = "help" then readHelp rest
      else if asksForHelp first then .help .program
      else if asksForVersion first then .version
      else .misuse

/-! ## Texts -/

def versionText : String := "check-suite 0.1.0\n"

def helpText : Topic → String
  | .program =>
      "Inspect stored check definitions\n\n"
        ++ "Usage: check-suite <COMMAND>\n\n"
        ++ "Commands:\n"
        ++ "  list  Print every stored definition as one JSON object per line\n"
        ++ "  show  Print one stored definition as pretty JSON\n"
        ++ "  help  Print this message or the help of the given subcommand(s)\n\n"
        ++ "Options:\n"
        ++ "  -h, --help     Print help\n"
        ++ "  -V, --version  Print version\n"
  | .listAll =>
      "Print every stored definition as one JSON object per line\n\n"
        ++ "Usage: check-suite list\n\n"
        ++ "Options:\n"
        ++ "  -h, --help  Print help\n"
  | .showOne =>
      "Print one stored definition as pretty JSON\n\n"
        ++ "Usage: check-suite show <ID>\n\n"
        ++ "Arguments:\n"
        ++ "  <ID>  Definition identity\n\n"
        ++ "Options:\n"
        ++ "  -h, --help  Print help\n"
  | .help =>
      "Print this message or the help of the given subcommand(s)\n\n"
        ++ "Usage: check-suite help [COMMAND]...\n\n"
        ++ "Arguments:\n"
        ++ "  [COMMAND]...  Print help for the subcommand(s)\n"

/-! ## Running -/

structure Answer where
  code : Nat
  output : String
  /-- The texts of an error, the outermost first. -/
  complaint : List String
deriving DecidableEq

def Answer.done (output : String) : Answer := ⟨0, output, []⟩

def Answer.failed (complaint : List String) : Answer := ⟨1, "", complaint⟩

def Answer.refused : Answer := ⟨2, "", []⟩

/-- The answer of a program that comes to a sudden end. -/
def Answer.crashed : Answer := ⟨101, "", []⟩

def failureText : CallFailure → String
  | .refused error => error.message
  | .crashed => "crashed"

def listingText (definitions : List Metadata) : String :=
  String.join (definitions.map fun metadata => metadata.toJson.compact ++ "\n")

variable {σ : Type}

def listAll (store : DefinitionStore σ) (state : σ) : Answer × σ :=
  match store.list state with
  | (.error failure, state) => (.failed ["listing definitions", failureText failure], state)
  | (.ok definitions, state) => (.done (listingText definitions), state)

def showOne (store : DefinitionStore σ) (text : String) (state : σ) : Answer × σ :=
  match Identity.ofText text with
  | .error error => (.failed [error.message], state)
  | .ok identity =>
      match store.load identity state with
      | (.error failure, state) =>
          (.failed ["loading definition " ++ text, failureText failure], state)
      | (.ok none, state) => (.failed ["definition " ++ text ++ " not found"], state)
      | (.ok (some metadata), state) => (.done (metadata.toJson.indented ++ "\n"), state)

def execute (store : DefinitionStore σ) (command : Command) (state : σ) : Answer × σ :=
  match command with
  | .listAll => listAll store state
  | .showOne identity => showOne store identity state

/-- Run the command line, in a folder that is so many levels deep, when the clock has
counted so many seconds.  The arguments are read first, then the settings, and the command
last. -/
def run (files : FileSystem σ) (send : Transport σ) (levels uptime : Nat)
    (environment : Environment) (arguments : List String) (state : σ) : Answer × σ :=
  match read arguments with
  | .misuse => (.refused, state)
  | .version => (.done versionText, state)
  | .help topic => (.done (helpText topic), state)
  | .command command =>
      match DotEnv.fillFrom files environment (DotEnv.candidates levels) state with
      | (none, state) => (.crashed, state)
      | (some environment, state) =>
          match Settings.ofEnvironment environment with
          | .error error => (.failed [error.message], state)
          | .ok settings => execute (settings.store files send uptime) command state

end CommandLine

end Assay
