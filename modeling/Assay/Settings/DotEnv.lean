import Assay.Files.FileSystem
import Assay.Settings
import Assay.Text.Alphanumeric

/-!
# Files of variables

A file of variables holds assignments, one to a line unless a quote is open at
the end of the line.  Values may be quoted: single quotes take everything as it
is, double quotes allow escapes and references to variables.  An assignment
counts only if its variable is not set yet.  The first line that is malformed
ends the reading; the assignments before it have been made.
-/

namespace Assay.DotEnv

/-! ## Lines -/

/-- What the characters so far leave open. -/
inductive Scan where
  | closed
  | blank
  | escaped
  | double
  | doubleEscaped
  | single
  | singleEscaped
deriving DecidableEq

namespace Scan

/-- The next state, unless a comment begins: that takes a number sign right
after a blank. -/
def next (scan : Scan) (character : Char) : Option Scan :=
  match scan with
  | .closed =>
      if character = '\\' then some .escaped
      else if character = '"' then some .double
      else if character = '\'' then some .single
      else if Text.isBlank character ∧ character ≠ '\n' ∧ character ≠ '\r' then some .blank
      else some .closed
  | .blank =>
      if character = '#' then none
      else if character = '\\' then some .escaped
      else if character = '"' then some .double
      else if character = '\'' then some .single
      else some .closed
  | .escaped => some .closed
  | .double =>
      if character = '\\' then some .doubleEscaped
      else if character = '"' then some .closed
      else some .double
  | .doubleEscaped => some .double
  | .single =>
      if character = '\\' then some .singleEscaped
      else if character = '\'' then some .closed
      else some .single
  | .singleEscaped => some .single

/-- Go through a line.  The characters before a comment come first; the state
at the end is missing if there is a comment. -/
def line : Scan → List Char → List Char × Option Scan
  | scan, [] => ([], some scan)
  | scan, character :: rest =>
      match scan.next character with
      | none => ([], none)
      | some scan =>
          let (kept, final) := line scan rest
          (character :: kept, final)

end Scan

/-- The lines of a text, each with the line break that ends it. -/
def brokenLines : List Char → List (List Char)
  | [] => []
  | character :: rest =>
      if character = '\n' then [character] :: brokenLines rest
      else
        match brokenLines rest with
        | [] => [[character]]
        | line :: lines => (character :: line) :: lines

/-- The line without the line break at its end. -/
def withoutBreak (line : List Char) : List Char :=
  match line.reverse with
  | '\n' :: '\r' :: rest => rest.reverse
  | '\n' :: rest => rest.reverse
  | _ => line

/-- Join the lines that an open quote holds together.  A text that ends while
something is open has a malformed line there, which is told as nothing. -/
def joinLines : List Char → Scan → List (List Char) → List (Option (List Char))
  | _, scan, [] => if scan = .closed then [] else [none]
  | gathered, scan, line :: rest =>
      let whole := gathered ++ line
      if (whole.dropWhile Text.isBlank).head? = some '#' then some [] :: joinLines [] .closed rest
      else
        match scan.line line with
        | (kept, none) => some (gathered ++ kept) :: joinLines [] .closed rest
        | (_, some .closed) => some (withoutBreak whole) :: joinLines [] .closed rest
        | (_, some pending) => joinLines whole pending rest

/-! ## Values -/

/-- How the next character of a value is taken. -/
inductive Mode where
  | plain
  | single
  | escaped
  /-- Only blanks and a comment may follow. -/
  | ended
  /-- In the name of a variable, which goes on with letters and numbers. -/
  | named (name : List Char)
  /-- In the name of a variable in braces. -/
  | braced (name : List Char)
deriving DecidableEq

def escape? (character : Char) : Option Char :=
  if character = 'n' then some '\n'
  else if ['\\', '\'', '"', '$', ' '].contains character then some character
  else none

/-- Read a value.  Nothing comes back if it is malformed. -/
def readValue (lookup : List Char → List Char) : Mode → Bool → List Char → Option (List Char)
  | .plain, quoted, [] => if quoted then none else some []
  | .single, _, [] => none
  | .escaped, quoted, [] => if quoted then none else some []
  | .ended, _, [] => some []
  | .named name, quoted, [] => if quoted then none else some (lookup name)
  | .braced _, _, [] => none
  | .plain, quoted, character :: rest =>
      if character = '$' then readValue lookup (.named []) quoted rest
      else if character = '\\' then readValue lookup .escaped quoted rest
      else if character = '"' then readValue lookup .plain (!quoted) rest
      else if quoted then (readValue lookup .plain quoted rest).map (character :: ·)
      else if character = '\'' then readValue lookup .single quoted rest
      else if character = ' ' ∨ character = '\t' then readValue lookup .ended quoted rest
      else (readValue lookup .plain quoted rest).map (character :: ·)
  | .single, quoted, character :: rest =>
      if character = '\'' then readValue lookup .plain quoted rest
      else (readValue lookup .single quoted rest).map (character :: ·)
  | .escaped, quoted, character :: rest =>
      match escape? character with
      | none => none
      | some meant => (readValue lookup .plain quoted rest).map (meant :: ·)
  | .ended, quoted, character :: rest =>
      if character = ' ' ∨ character = '\t' then readValue lookup .ended quoted rest
      else if character = '#' then some []
      else none
  | .named name, quoted, character :: rest =>
      if Text.isAlphanumeric character then
        readValue lookup (.named (name ++ [character])) quoted rest
      else if character = '\x7b' ∧ name = [] then readValue lookup (.braced []) quoted rest
      else if character = '$' then
        (readValue lookup (.named []) quoted rest).map (lookup name ++ ·)
      else (readValue lookup .plain quoted rest).map fun value => lookup name ++ character :: value
  | .braced name, quoted, character :: rest =>
      if character = '\x7d' then (readValue lookup .plain quoted rest).map (lookup name ++ ·)
      else readValue lookup (.braced (name ++ [character])) quoted rest

/-! ## Assignments -/

def isKeyStart (character : Char) : Bool := character.isAlpha || character == '_'

def isKeyPart (character : Char) : Bool :=
  character.isAlphanum || character == '_' || character == '.'

def skipBlank (characters : List Char) : List Char := characters.dropWhile Text.isBlank

/-- The name of a variable and what follows it and the blanks after it. -/
def readKey (characters : List Char) : Option (List Char × List Char) :=
  match characters with
  | [] => none
  | first :: _ =>
      if isKeyStart first then
        some (characters.takeWhile isKeyPart, skipBlank (characters.dropWhile isKeyPart))
      else none

def readEquals (characters : List Char) : Option (List Char) :=
  match characters with
  | '=' :: rest => some (skipBlank rest)
  | _ => none

/-- The variable of an assignment and the text of its value.  The word `export`
may stand in front of the variable. -/
def readTarget (characters : List Char) : Option (List Char × List Char) := do
  let (key, rest) ← readKey characters
  match readEquals rest with
  | some value => pure (key, value)
  | none =>
      if key = "export".toList then
        let (key, rest) ← readKey rest
        let value ← readEquals rest
        pure (key, value)
      else none

inductive Line where
  | malformed
  | nothing
  | assignment (name value : String)

def readLine (lookup : List Char → List Char) (line : List Char) : Line :=
  let content := Text.trimList line
  match content with
  | [] => .nothing
  | first :: _ =>
      if first = '#' then .nothing
      else
        match readTarget content with
        | none => .malformed
        | some (key, value) =>
            if value.isEmpty || value.head? == some '#' then .assignment (String.ofList key) ""
            else
              match readValue lookup .plain false value with
              | none => .malformed
              | some value => .assignment (String.ofList key) (String.ofList value)

/-- What a reference stands for: a variable that is set, else the last value
that the file gives it. -/
def meaning (environment written : Environment) (name : List Char) : List Char :=
  match environment.find? (String.ofList name) with
  | some value => value.toList
  | none => ((written.find? (String.ofList name)).getD "").toList

/-- Set a variable that is not set.  No environment takes a value with a NUL. -/
def setNew (environment : Environment) (name value : String) : Option Environment :=
  if environment.contains name then some environment
  else if value.toList.contains '\x00' then none
  else some (environment.insert name value)

def applyLines : Environment → Environment → List (Option (List Char)) → Option Environment
  | environment, _, [] => some environment
  | environment, _, none :: _ => some environment
  | environment, written, some line :: rest =>
      match readLine (meaning environment written) line with
      | .malformed => some environment
      | .nothing => applyLines environment written rest
      | .assignment name value => do
          let environment ← setNew environment name value
          applyLines environment (written.insert name value) rest

/-- The environment after the assignments of a file, unless it cannot take one
of them. -/
def fill (environment : Environment) (text : String) : Option Environment :=
  let characters :=
    match text.toList with
    | '\uFEFF' :: rest => rest
    | characters => characters
  applyLines environment .empty (joinLines [] .closed (brokenLines characters))

/-! ## Finding the file -/

def fileName : String := ".env"

/-- The paths at which the file is looked for: in the working folder first, then
in so many folders around it. -/
def candidates (levels : Nat) : List Path :=
  (List.range (levels + 1)).map fun level => ⟨false, List.replicate level ".." ++ [fileName]⟩

/-- The lines of a file up to the first one that is not a text. -/
def readableText (bytes : ByteArray) : String :=
  let lines := (bytes.toList.splitOn 0x0A).map fun line => String.fromUTF8? ⟨line.toArray⟩
  "\n".intercalate ((lines.takeWhile Option.isSome).filterMap id)

variable {σ : Type}

/-- The environment after the assignments of the first file there is. -/
def fillFrom (files : FileSystem σ) (environment : Environment) :
    List Path → σ → Option Environment × σ
  | [], state => (some environment, state)
  | path :: rest, state =>
      match files.read path state with
      | (.ok bytes, state) => (fill environment (readableText bytes), state)
      | (.error .notFound, state) => fillFrom files environment rest state
      | (.error .isAFolder, state) => fillFrom files environment rest state
      | (.error _, state) => (some environment, state)

end Assay.DotEnv
