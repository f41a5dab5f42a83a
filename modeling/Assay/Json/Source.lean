import Assay.Json.Value

/-!
# What stands in a JSON text

A text is read as far as it goes into a tree that keeps the order of members,
repeated names and the place where the text goes wrong.  Whoever takes values
out of the tree meets the problems in the order of the text, and may skip parts
whose only fault is a value that no string or number can hold.
-/

namespace Assay.Json

/-- A text that is no JSON text goes on wrongly or ends too early. -/
inductive Fault where
  | malformed
  | truncated
deriving DecidableEq, Repr

/-- What is wrong with a value, for those who read it, for those who skip it
and for those who look for a name in its place.  A value that can be skipped
has no fault for the second. -/
structure Flaw where
  whenRead : Fault
  whenSkipped : Option Fault
  whenNamed : Fault
deriving DecidableEq, Repr

namespace Flaw

/-- The same fault for everybody. -/
def always (fault : Fault) : Flaw := ⟨fault, some fault, fault⟩

end Flaw

/-- The name of a member, or the fault of a name that no string can hold. -/
abbrev Key := Except Fault String

inductive Source where
  | null
  | bool (value : Bool)
  | number (value : Number)
  | string (value : String)
  | flawed (flaw : Flaw)
  /-- The items, and the fault where the next item or the bracket should be. -/
  | array (items : List Source) (ending : Option Fault)
  | object (members : List (Key × Source)) (ending : Option Fault)
deriving Inhabited

namespace Source

mutual

/-- The tree of a value in memory has no faults. -/
def ofValue : Value → Source
  | .null => .null
  | .bool value => .bool value
  | .number value => .number value
  | .string value => .string value
  | .array items => .array (ofItems items) none
  | .object members => .object (ofMembers members) none

def ofItems : List Value → List Source
  | [] => []
  | item :: items => ofValue item :: ofItems items

def ofMembers : List (String × Value) → List (Key × Source)
  | [] => []
  | (name, value) :: members => (.ok name, ofValue value) :: ofMembers members

end

mutual

/-- The fault met by skipping a part of the text, if any. -/
def skipFault : Source → Option Fault
  | .flawed flaw => flaw.whenSkipped
  | .array items ending => (skipItemsFault items).or ending
  | .object members ending => (skipMembersFault members).or ending
  | _ => none

def skipItemsFault : List Source → Option Fault
  | [] => none
  | item :: items => (skipFault item).or (skipItemsFault items)

def skipMembersFault : List (Key × Source) → Option Fault
  | [] => none
  | (_, value) :: members => (skipFault value).or (skipMembersFault members)

end

end Source

end Assay.Json
