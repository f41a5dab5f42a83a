import Assay.Http.Host
import Assay.Text.Blank

/-!
# Addresses

An address has a scheme, a host, a path of segments, and maybe a user, a number
behind the host, a query and a fragment.  Segments that are dots only are no
names: one dot stays where it is and two dots take back the segment before, even
when the dots are percent-encoded.
-/

namespace Assay

inductive UrlError where
  | noScheme
  | invalidPort
  | host (error : HostError)
deriving DecidableEq

namespace UrlError

/-- The name and the explanation of an error. -/
def message : UrlError → String
  | .noScheme => "RelativeUrlWithoutBase: relative URL without a base"
  | .invalidPort => "InvalidPort: invalid port number"
  | .host error => error.message

def noHost : UrlError := .host .missing

end UrlError

structure Url where
  scheme : String
  /-- The name of a user, a password behind a colon, or both. -/
  user : String
  host : Host
  /-- The number behind the host, unless it goes without saying. -/
  portNumber? : Option Nat
  segments : List String
  query : Option String
  fragment : Option String
deriving DecidableEq

namespace Url

/-! ## Characters -/

def isSchemePart (character : Char) : Bool :=
  character.isAlphanum || character == '+' || character == '-' || character == '.'

/-- Characters that are dropped at both ends. -/
def isOuter (character : Char) : Bool := character.toNat ≤ 0x20

/-- Characters that are dropped everywhere. -/
def isDropped (character : Char) : Bool :=
  character == '\t' || character == '\n' || character == '\r'

def escape (marks : List Char) (characters : List Char) : String :=
  String.ofList (Text.PercentEncoding.escape marks characters)

def pathMarks : List Char := ['"', '#', '<', '>', '?', '`', '\x7b', '\x7d']

def userMarks : List Char := pathMarks ++ ['/', ':', ';', '=', '@', '[', '\\', ']', '^', '|']

def queryMarks (isWeb : Bool) : List Char :=
  ['"', '#', '<', '>'] ++ (if isWeb then ['\''] else [])

def fragmentMarks : List Char := ['"', '<', '>', '`']

/-! ## Schemes -/

def knownPort? (scheme : String) : Option Nat :=
  if scheme = "http" ∨ scheme = "ws" then some 80
  else if scheme = "https" ∨ scheme = "wss" then some 443
  else if scheme = "ftp" then some 21
  else none

/-- How an address is written behind its scheme.  Addresses of the web and of
files take backslashes for slashes. -/
inductive Form where
  | web
  | file
  | other
deriving DecidableEq

def formOf (scheme : String) : Form :=
  if (knownPort? scheme).isSome then .web
  else if scheme = "file" then .file
  else .other

/-- The scheme and what follows its colon. -/
def splitScheme (characters : List Char) : Option (String × List Char) :=
  match characters with
  | first :: _ =>
      if first.isAlpha then
        match characters.dropWhile isSchemePart with
        | ':' :: rest =>
            some (String.ofList ((characters.takeWhile isSchemePart).map Char.toLower), rest)
        | _ => none
      else none
  | [] => none

/-- Split at the first occurrence of a mark, which is in neither part. -/
def splitAtMark (mark : Char) (characters : List Char) : List Char × Option (List Char) :=
  match characters.dropWhile (· != mark) with
  | [] => (characters, none)
  | _ :: rest => (characters.takeWhile (· != mark), some rest)

/-! ## Paths -/

/-- The segment with its encoded dots decoded. -/
def plainDots : List Char → List Char
  | '%' :: '2' :: 'e' :: rest => '.' :: plainDots rest
  | '%' :: '2' :: 'E' :: rest => '.' :: plainDots rest
  | character :: rest => character :: plainDots rest
  | [] => []

def isSingleDot (segment : List Char) : Bool := plainDots segment == ['.']

def isDoubleDot (segment : List Char) : Bool := plainDots segment == ['.', '.']

/-- Whether a segment names the drive of a disk. -/
def isDrive : List Char → Bool
  | [letter, ':'] => letter.isAlpha
  | [letter, '|'] => letter.isAlpha
  | _ => false

/-- Take back the last segment, unless it is a drive. -/
def takeBack (resolved : List (List Char)) : List (List Char) :=
  if resolved.getLast?.any isDrive then resolved else resolved.dropLast

/-- Resolve the segments that are dots only.  A path that ends in one of them
ends in a slash. -/
def resolveDots : List (List Char) → List (List Char) → List (List Char)
  | resolved, [] => resolved
  | resolved, [last] =>
      if isDoubleDot last then takeBack resolved ++ [[]]
      else if isSingleDot last then resolved ++ [[]]
      else resolved ++ [last]
  | resolved, segment :: rest =>
      if isDoubleDot segment then resolveDots (takeBack resolved) rest
      else if isSingleDot segment then resolveDots resolved rest
      else resolveDots (resolved ++ [segment]) rest

/-- The segments of a path without its first slash. -/
def segmentsOf (characters : List Char) : List (List Char) :=
  resolveDots [] (Text.pieces '/' characters)

/-- The segments without the empty ones in front; the last one stays. -/
def withoutLeadingEmpty : List (List Char) → List (List Char)
  | [] :: next :: rest => withoutLeadingEmpty (next :: rest)
  | segments => segments

def encodeSegments (segments : List (List Char)) : List String :=
  segments.map (escape pathMarks)

def withoutSlash : List Char → List Char
  | '/' :: rest => rest
  | rest => rest

/-! ## Hosts and what is around them -/

/-- The user, if there is a sign that ends it, and the rest. -/
def splitUser (characters : List Char) : Option (List Char) × List Char :=
  let rest := (characters.reverse.takeWhile (· != '@')).reverse
  if rest.length = characters.length then (none, rest)
  else (some (characters.take (characters.length - rest.length - 1)), rest)

/-- A user in its written form.  An empty password is left out with its colon. -/
def userText (characters : List Char) : String :=
  match splitAtMark ':' characters with
  | (name, none) => escape userMarks name
  | (name, some password) =>
      escape userMarks name
        ++ (if password.isEmpty then "" else ":" ++ escape userMarks password)

/-- The host ends at the first colon that is not in brackets.  What follows it is
given with the colon. -/
def splitHost (inBrackets : Bool) : List Char → List Char × List Char
  | [] => ([], [])
  | character :: rest =>
      if character = ':' ∧ !inBrackets then ([], character :: rest)
      else
        let (host, later) :=
          splitHost (character == '[' || (inBrackets && character != ']')) rest
        (character :: host, later)

/-- The number behind a host, and what follows it. -/
def splitNumber (characters : List Char) : Except UrlError (Option Nat × List Char) :=
  match characters with
  | ':' :: rest =>
      let digits := rest.takeWhile Char.isDigit
      let later := rest.dropWhile Char.isDigit
      let number := Nat.ofDigitChars 10 digits 0
      if 65535 < number ∨ (!later.isEmpty ∧ later.head? ≠ some '\\') then .error .invalidPort
      else .ok (if digits.isEmpty then none else some number, later)
  | _ => .ok (none, characters)

def parseHost (isWeb : Bool) (characters : List Char) : Except UrlError Host :=
  match Host.parse isWeb characters with
  | .ok host => .ok host
  | .error error => .error (.host error)

/-- What stands between a scheme and a query: a user, a host and a number, and the
path behind them with its first slash.  The number goes without saying if it is
the one that every such address has. -/
def parseLocation (scheme : String) (isWeb : Bool) (characters : List Char) :
    Except UrlError (String × Host × Option Nat × List Char) := do
  let (user, rest) := splitUser (characters.takeWhile (· != '/'))
  let (written, rest) := splitHost false rest
  let host ← parseHost isWeb written
  let (number, rest) ← splitNumber rest
  let number := if number = knownPort? scheme then none else number
  pure ((user.map userText).getD "", host, number, rest ++ characters.dropWhile (· != '/'))

/-- The host and the segments of a file.  A file on the own machine has no host,
and a drive belongs to no host. -/
def parseFile (characters : List Char) : Except UrlError (Host × List (List Char)) := do
  let written := characters.takeWhile (· != '/')
  if isDrive written then throw .noHost
  let host ← parseHost true written
  if host = .name "localhost" then throw .noHost
  let segments := segmentsOf (withoutSlash (characters.dropWhile (· != '/')))
  if segments.head?.any isDrive then throw .noHost
  pure (host, withoutLeadingEmpty segments)

/-- What follows two slashes. -/
def afterSlashes : List Char → Except UrlError (List Char)
  | '/' :: '/' :: rest => .ok rest
  | _ => .error .noHost

/-! ## Addresses -/

def slashed (characters : List Char) : List Char :=
  characters.map fun character => if character = '\\' then '/' else character

/-- The address without its query and its fragment. -/
def parseFront (scheme : String) (characters : List Char) : Except UrlError Url :=
  match formOf scheme with
  | .web => do
      let located := (slashed characters).dropWhile (· == '/')
      let (user, host, number, path) ← parseLocation scheme true located
      let segments := encodeSegments (segmentsOf (withoutSlash path))
      pure ⟨scheme, user, host, number, segments, none, none⟩
  | .file => do
      let located ← afterSlashes (slashed characters)
      let (host, segments) ← parseFile located
      pure ⟨scheme, "", host, none, encodeSegments segments, none, none⟩
  | .other => do
      let located ← afterSlashes characters
      let (user, host, number, path) ← parseLocation scheme false located
      let segments :=
        if path.isEmpty then [] else encodeSegments (segmentsOf (withoutSlash path))
      pure ⟨scheme, user, host, number, segments, none, none⟩

def parseList (characters : List Char) : Except UrlError Url := do
  let outer := ((characters.dropWhile isOuter).reverse.dropWhile isOuter).reverse
  let some (scheme, rest) := splitScheme (outer.filter fun character => !isDropped character)
    | throw .noScheme
  let (rest, fragment) := splitAtMark '#' rest
  let (rest, query) := splitAtMark '?' rest
  let front ← parseFront scheme rest
  pure { front with
    query := query.map (escape (queryMarks (formOf scheme != .other)))
    fragment := fragment.map (escape fragmentMarks) }

def parse (text : String) : Except UrlError Url := parseList text.toList

/-- A path without segments is empty. -/
def path (url : Url) : String :=
  String.join (url.segments.map ("/" ++ ·))

/-- What a request asks a server for. -/
def target (url : Url) : String :=
  url.path ++ (match url.query with | none => "" | some query => "?" ++ query)

/-- The host with the number behind it. -/
def location (url : Url) : String :=
  url.host.text ++ (match url.portNumber? with | none => "" | some n => ":" ++ toString n)

def text (url : Url) : String :=
  url.scheme ++ "://" ++ (if url.user.isEmpty then "" else url.user ++ "@") ++ url.location
    ++ url.target ++ (match url.fragment with | none => "" | some fragment => "#" ++ fragment)

/-- The number behind the host, or the one that goes without saying. -/
def portNumber (url : Url) : Nat := (url.portNumber?.or (knownPort? url.scheme)).getD 0

end Url

end Assay
