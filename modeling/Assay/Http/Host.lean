import Assay.Http.Host.Address6
import Assay.Http.Host.Name
import Assay.Text.PercentEncoding

/-!
# Hosts

A host is an address in brackets, an address of numbers, or a name.  Schemes of
the web have one way to write each host, other schemes take a name as it is.
-/

namespace Assay

inductive HostError where
  | missing
  | invalidName
  | invalidCharacter
  | invalidAddress4
  | invalidAddress6
deriving DecidableEq

namespace HostError

/-- The name and the explanation of an error. -/
def message : HostError → String
  | .missing => "EmptyHost: empty host"
  | .invalidName => "IdnaError: invalid international domain name"
  | .invalidCharacter => "InvalidDomainCharacter: invalid domain character"
  | .invalidAddress4 => "InvalidIpv4Address: invalid IPv4 address"
  | .invalidAddress6 => "InvalidIpv6Address: invalid IPv6 address"

end HostError

inductive Host where
  | name (text : String)
  | address4 (address : Address4)
  | address6 (address : Address6)
deriving DecidableEq

namespace Host

def text : Host → String
  | .name text => text
  | .address4 address => address.text
  | .address6 address => "[" ++ address.text ++ "]"

/-- An address behind an opening bracket, with the closing one at its end. -/
def parseBracketed (characters : List Char) : Except HostError Host :=
  match characters.getLast?, Address6.parse characters.dropLast with
  | some ']', some address => .ok (.address6 address)
  | _, _ => .error .invalidAddress6

/-- The host of an address of the web. -/
def parseName (characters : List Char) : Except HostError Host := do
  let bytes := Text.PercentEncoding.bytesOf characters
  let some written := String.fromUTF8? ⟨bytes.toArray⟩
    | throw .invalidName
  let some ascii := asciiName? written.toList
    | throw .invalidName
  if ascii.isEmpty then throw .missing
  if Address4.isMeant ascii then
    match Address4.parse ascii with
    | some address => pure (.address4 address)
    | none => throw .invalidAddress4
  else pure (.name (String.ofList ascii))

/-- Whether a character is in no host of any scheme. -/
def isForbiddenAnywhere (character : Char) : Bool :=
  ['\x00', '\t', '\n', '\r', ' ', '#', '/', ':', '<', '>', '?', '@', '[', '\\', ']', '^',
    '|'].contains character

/-- The host of an address of another scheme. -/
def parseOpaque (characters : List Char) : Except HostError Host :=
  if characters.isEmpty then .error .missing
  else if characters.any isForbiddenAnywhere then .error .invalidCharacter
  else .ok (.name (String.ofList (Text.PercentEncoding.escape [] characters)))

def parse (isWeb : Bool) (characters : List Char) : Except HostError Host :=
  match characters with
  | [] => .error .missing
  | '[' :: rest => parseBracketed rest
  | _ => if isWeb then parseName characters else parseOpaque characters

end Host

end Assay
