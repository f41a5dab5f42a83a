import Assay.Http.Exchange

/-!
# Requests and responses as bytes

A request is sent over a connection of its own, which the server closes behind
its response.  So a response is its first line, its headers, an empty line, and
everything after that.
-/

namespace Assay

namespace Wire

def lineEnd : String := "\r\n"

def headerLine (name value : String) : String := name ++ ": " ++ value ++ lineEnd

def printRequest (request : Request) : String :=
  let body := request.body.getD ""
  request.method.name ++ " " ++ request.url.target ++ " HTTP/1.0" ++ lineEnd
    ++ headerLine "Host" request.url.location
    ++ headerLine "X-API-Key" request.apiKey
    ++ headerLine "Content-Type" "application/json"
    ++ headerLine "Content-Length" (toString body.utf8ByteSize)
    ++ lineEnd ++ body

/-- What follows the first empty line. -/
def afterHeaders : List Char → Option (List Char)
  | '\r' :: '\n' :: '\r' :: '\n' :: body => some body
  | _ :: rest => afterHeaders rest
  | [] => none

/-- The number after the first blank of a response. -/
def statusOf (characters : List Char) : Option Nat :=
  let digits := ((characters.dropWhile (· != ' ')).drop 1).takeWhile Char.isDigit
  if digits.length = 3 then some (Nat.ofDigitChars 10 digits 0) else none

def readResponse (characters : List Char) : Option Response := do
  let status ← statusOf characters
  let body ← afterHeaders characters
  pure ⟨status, String.ofList body⟩

end Wire

end Assay
