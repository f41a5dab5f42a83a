import Assay.Json.Numeral
import Assay.Json.Source
import Assay.Text.Hexadecimal

/-!
# Reading JSON texts

The reader builds the tree of a text and hands back the characters after it.
Where the text cannot be read on, the tree holds the fault, and the fault takes
the place of the rest.
-/

namespace Assay.Json

def isSpace (character : Char) : Bool :=
  character == ' ' || character == '\n' || character == '\t' || character == '\r'

def skipSpace (characters : List Char) : List Char := characters.dropWhile isSpace

/-- The rest of a text, or the fault that ends it. -/
abbrev Rest := Except Fault (List Char)

/-! ## Strings -/

/-- The place of the next character within a string. -/
inductive StringState where
  | plain
  /-- After a backslash. -/
  | escaped
  /-- Within the four digits of a code unit, after a leading surrogate or not. -/
  | digits (count : Nat) (unit : Nat) (leading : Option Nat)
  /-- After a leading surrogate. -/
  | surrogate (leading : Nat)
  /-- After a leading surrogate and a backslash. -/
  | surrogateEscaped (leading : Nat)

/-- The content of a string, or the fault for those who read it, and the text
after it, or the fault that ends it. -/
structure StringScan where
  content : Except Fault String
  rest : Rest

def escapeValue? (character : Char) : Option Char :=
  match character with
  | '"' => some '"'
  | '\\' => some '\\'
  | '/' => some '/'
  | 'b' => some '\x08'
  | 'f' => some '\x0c'
  | 'n' => some '\n'
  | 'r' => some '\r'
  | 't' => some '\t'
  | _ => none

def isLeading (unit : Nat) : Bool := 0xD800 ≤ unit && unit ≤ 0xDBFF

def isTrailing (unit : Nat) : Bool := 0xDC00 ≤ unit && unit ≤ 0xDFFF

def joinSurrogates (leading trailing : Nat) : Char :=
  Char.ofNat (0x10000 + (leading - 0xD800) * 0x400 + (trailing - 0xDC00))

/-- Whether fewer than four bytes are left for the digits of a code unit. -/
def lacksBytes (count : Nat) (rest : List Char) : Bool :=
  count + (rest.take 4).foldl (fun size character => size + character.utf8Size) 0 < 4

/-- Read a string from the character after its opening quote on.  The characters
read so far come last first; `flaw` is set once the string cannot be read but
only skipped. -/
def scanString : List Char → StringState → List Char → Bool → StringScan
  | [], _, _, flaw => ⟨.error (if flaw then .malformed else .truncated), .error .truncated⟩
  | character :: rest, state, read, flaw =>
      let stop (fault : Fault) : StringScan :=
        ⟨.error (if flaw then .malformed else fault), .error fault⟩
      let onPlain (flaw : Bool) : StringScan :=
        if character = '"' then
          ⟨if flaw then .error .malformed else .ok (String.ofList read.reverse), .ok rest⟩
        else if character = '\\' then scanString rest .escaped read flaw
        else if character.toNat < 0x20 then ⟨.error .malformed, .error .malformed⟩
        else scanString rest .plain (character :: read) flaw
      let onEscaped (flaw : Bool) : StringScan :=
        if character = 'u' then scanString rest (.digits 0 0 none) read flaw
        else
          match escapeValue? character with
          | some value => scanString rest .plain (value :: read) flaw
          | none => ⟨.error .malformed, .error .malformed⟩
      match state with
      | .plain => onPlain flaw
      | .escaped => onEscaped flaw
      | .digits count unit leading =>
          match Text.hexValue? character with
          | none => stop (if lacksBytes count (character :: rest) then .truncated else .malformed)
          | some digit =>
              let unit := 16 * unit + digit
              if count < 3 then scanString rest (.digits (count + 1) unit leading) read flaw
              else
                match leading with
                | none =>
                    if isLeading unit then scanString rest (.surrogate unit) read flaw
                    else if isTrailing unit then scanString rest .plain read true
                    else scanString rest .plain (Char.ofNat unit :: read) flaw
                | some leading =>
                    if isTrailing unit then
                      scanString rest .plain (joinSurrogates leading unit :: read) flaw
                    else scanString rest .plain read true
      | .surrogate leading =>
          if character = '\\' then scanString rest (.surrogateEscaped leading) read flaw
          else onPlain true
      | .surrogateEscaped leading =>
          if character = 'u' then scanString rest (.digits 0 0 (some leading)) read flaw
          else onEscaped true

/-! ## Values -/

/-- The tree of the next value and what follows it. -/
abbrev Reading := Source × Rest

def Reading.failed (fault : Fault) : Reading :=
  (.flawed (.always fault), .error fault)

/-- The flaw of a value that does not begin as a string does. -/
def unnamedFlaw (whenRead : Fault) (whenSkipped : Option Fault) : Flaw :=
  ⟨whenRead, whenSkipped, .malformed⟩

/-- The characters of a fixed word, of which the first is read already. -/
def readWord (source : Source) : List Char → List Char → Reading
  | [], rest => (source, .ok rest)
  | _ :: _, [] => (.flawed (unnamedFlaw .truncated (some .truncated)), .error .truncated)
  | expected :: word, character :: rest =>
      if character = expected then readWord source word rest
      else (.flawed (unnamedFlaw .malformed (some .malformed)), .error .malformed)

/-- A literal that is cut short is malformed for those who skip it. -/
def readNumber (characters : List Char) : Reading :=
  match Numeral.scan characters with
  | .literal numeral rest =>
      match numeral.value? with
      | some number => (.number number, .ok rest)
      | none => (.flawed (unnamedFlaw .malformed none), .ok rest)
  | .cut => (.flawed (unnamedFlaw .truncated (some .malformed)), .error .malformed)
  | .broken => (.flawed (unnamedFlaw .malformed (some .malformed)), .error .malformed)

/-- The characters after an opening quote. -/
def readString (characters : List Char) : Reading :=
  let scan := scanString characters .plain [] false
  match scan.content, scan.rest with
  | .ok text, rest => (.string text, rest)
  | .error fault, .ok rest => (.flawed ⟨fault, none, fault⟩, .ok rest)
  | .error fault, .error skipped => (.flawed ⟨fault, some skipped, fault⟩, .error skipped)

/-- The name of a member, after its opening quote, and the text from its value
on. -/
def readKey (characters : List Char) : Key × Rest :=
  let scan := scanString characters .plain [] false
  match scan.rest with
  | .error fault => (scan.content, .error fault)
  | .ok rest =>
      match skipSpace rest with
      | ':' :: rest => (scan.content, .ok rest)
      | [] => (scan.content, .error .truncated)
      | _ :: _ => (scan.content, .error .malformed)

mutual

/-- Read one value.  The fuel bounds the number of values and separators. -/
def readValue : Nat → List Char → Reading
  | 0, _ => .failed .malformed
  | fuel + 1, characters =>
      match skipSpace characters with
      | [] => .failed .truncated
      | 'n' :: rest => readWord .null ['u', 'l', 'l'] rest
      | 't' :: rest => readWord (.bool true) ['r', 'u', 'e'] rest
      | 'f' :: rest => readWord (.bool false) ['a', 'l', 's', 'e'] rest
      | '"' :: rest => readString rest
      | '[' :: rest =>
          match skipSpace rest with
          | [] => (.array [] (some .truncated), .error .truncated)
          | ']' :: rest => (.array [] none, .ok rest)
          | _ :: _ =>
              let (items, ending, rest) := readItems fuel rest
              (.array items ending, rest)
      | '\x7b' :: rest =>
          match skipSpace rest with
          | [] => (.object [] (some .truncated), .error .truncated)
          | '\x7d' :: rest => (.object [] none, .ok rest)
          | '"' :: rest =>
              let (members, ending, rest) := readMembers fuel rest
              (.object members ending, rest)
          | _ :: _ => (.object [] (some .malformed), .error .malformed)
      | character :: rest =>
          if character = '-' ∨ character.isDigit then
            readNumber (character :: rest)
          else .failed .malformed

/-- Read an item and what follows it in its array. -/
def readItems : Nat → List Char → List Source × Option Fault × Rest
  | 0, _ => ([], some .malformed, .error .malformed)
  | fuel + 1, characters =>
      match readValue fuel characters with
      | (item, .error fault) => ([item], some fault, .error fault)
      | (item, .ok rest) =>
          match skipSpace rest with
          | [] => ([item], some .truncated, .error .truncated)
          | ']' :: rest => ([item], none, .ok rest)
          | ',' :: rest =>
              match skipSpace rest with
              | ']' :: _ =>
                  ([item, .flawed (.always .malformed)], some .malformed, .error .malformed)
              | _ =>
                  let (items, ending, rest) := readItems fuel rest
                  (item :: items, ending, rest)
          | _ :: _ => ([item], some .malformed, .error .malformed)

/-- Read a member, after the opening quote of its name, and what follows it in
its object. -/
def readMembers : Nat → List Char → List (Key × Source) × Option Fault × Rest
  | 0, _ => ([], some .malformed, .error .malformed)
  | fuel + 1, characters =>
      match readKey characters with
      | (key, .error fault) =>
          ([(key, .flawed (.always fault))], some fault, .error fault)
      | (key, .ok rest) =>
          match readValue fuel rest with
          | (value, .error fault) => ([(key, value)], some fault, .error fault)
          | (value, .ok rest) =>
              let lone (fault : Fault) : List (Key × Source) × Option Fault × Rest :=
                ([(key, value), (.error fault, .flawed (.always fault))], some fault, .error fault)
              match skipSpace rest with
              | [] => ([(key, value)], some .truncated, .error .truncated)
              | '\x7d' :: rest => ([(key, value)], none, .ok rest)
              | ',' :: rest =>
                  match skipSpace rest with
                  | '"' :: rest =>
                      let (members, ending, rest) := readMembers fuel rest
                      ((key, value) :: members, ending, rest)
                  | [] => lone .truncated
                  | _ :: _ => lone .malformed
              | _ :: _ => ([(key, value)], some .malformed, .error .malformed)

end

/-- Read a whole text.  Every step of the reader takes at least one character. -/
def Source.read (text : List Char) : Reading := readValue (2 * text.length + 2) text

end Assay.Json
