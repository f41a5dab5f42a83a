import Assay.Json.Printer
import Assay.Json.Reader

/-!
# Texts with blanks between their parts

The compact and the indented text of a value differ only in the blanks that
stand before the parts of an array or object and after a colon.  Both are cases
of a text with any such blanks.
-/

namespace Assay.Json

/-- The blanks of a text, by the level of nesting. -/
structure Spacing where
  /-- What stands before an item, a member and a closing bracket. -/
  line : Nat → List Char
  afterColon : List Char
  line_blank : ∀ level, ∀ character ∈ line level, isSpace character = true
  afterColon_blank : ∀ character ∈ afterColon, isSpace character = true

namespace Spacing

def compact : Spacing where
  line := fun _ => []
  afterColon := []
  line_blank := fun _ _ member => absurd member List.not_mem_nil
  afterColon_blank := fun _ member => absurd member List.not_mem_nil

def indented : Spacing where
  line := Value.newLine
  afterColon := [' ']
  line_blank := by
    intro level character member
    rcases List.mem_cons.mp member with rfl | blank
    · rfl
    · rw [List.eq_of_mem_replicate blank]
      rfl
  afterColon_blank := by
    intro character member
    rw [List.mem_singleton.mp member]
    rfl

mutual

/-- The text of a value at a level of nesting. -/
def print (spacing : Spacing) (level : Nat) : Value → List Char
  | .null => ['n', 'u', 'l', 'l']
  | .bool true => ['t', 'r', 'u', 'e']
  | .bool false => ['f', 'a', 'l', 's', 'e']
  | .number content => content.print
  | .string text => printString text
  | .array [] => ['[', ']']
  | .array (item :: items) =>
      '[' :: spacing.line (level + 1) ++ print spacing (level + 1) item
        ++ printItems spacing (level + 1) items ++ spacing.line level ++ [']']
  | .object [] => ['\x7b', '\x7d']
  | .object ((name, value) :: members) =>
      '\x7b' :: spacing.line (level + 1) ++ printString name
        ++ ':' :: spacing.afterColon ++ print spacing (level + 1) value
        ++ printMembers spacing (level + 1) members ++ spacing.line level ++ ['\x7d']

/-- The items after the first one. -/
def printItems (spacing : Spacing) (level : Nat) : List Value → List Char
  | [] => []
  | item :: items =>
      ',' :: spacing.line level ++ print spacing level item
        ++ printItems spacing level items

/-- The members after the first one. -/
def printMembers (spacing : Spacing) (level : Nat) : List (String × Value) → List Char
  | [] => []
  | (name, value) :: members =>
      ',' :: spacing.line level ++ printString name ++ ':' :: spacing.afterColon
        ++ print spacing level value ++ printMembers spacing level members

end

mutual

@[simp] theorem print_compact : ∀ (level : Nat) (value : Value),
    compact.print level value = value.print
  | _, .null => rfl
  | _, .bool true => rfl
  | _, .bool false => rfl
  | _, .number _ => by simp only [print, Value.print]
  | _, .string _ => by simp only [print, Value.print]
  | _, .array [] => rfl
  | level, .array (item :: items) => by
      simp only [print, Value.print, print_compact (level + 1) item,
        printItems_compact (level + 1) items]
      simp [compact]
  | _, .object [] => rfl
  | level, .object ((name, value) :: members) => by
      simp only [print, Value.print, print_compact (level + 1) value,
        printMembers_compact (level + 1) members]
      simp [compact]

@[simp] theorem printItems_compact : ∀ (level : Nat) (items : List Value),
    compact.printItems level items = Value.printItems items
  | _, [] => rfl
  | level, item :: items => by
      simp only [printItems, Value.printItems, print_compact level item,
        printItems_compact level items]
      simp [compact]

@[simp] theorem printMembers_compact : ∀ (level : Nat) (members : List (String × Value)),
    compact.printMembers level members = Value.printMembers members
  | _, [] => rfl
  | level, (name, value) :: members => by
      simp only [printMembers, Value.printMembers, print_compact level value,
        printMembers_compact level members]
      simp [compact]

end

mutual

@[simp] theorem print_indented : ∀ (level : Nat) (value : Value),
    indented.print level value = value.printIndented level
  | _, .null => rfl
  | _, .bool true => rfl
  | _, .bool false => rfl
  | _, .number _ => by simp only [print, Value.printIndented]
  | _, .string _ => by simp only [print, Value.printIndented]
  | _, .array [] => rfl
  | level, .array (item :: items) => by
      simp only [print, Value.printIndented, print_indented (level + 1) item,
        printItems_indented (level + 1) items]
      rfl
  | _, .object [] => rfl
  | level, .object ((name, value) :: members) => by
      simp only [print, Value.printIndented, print_indented (level + 1) value,
        printMembers_indented (level + 1) members]
      simp [indented]

@[simp] theorem printItems_indented : ∀ (level : Nat) (items : List Value),
    indented.printItems level items = Value.printIndentedItems level items
  | _, [] => rfl
  | level, item :: items => by
      simp only [printItems, Value.printIndentedItems, print_indented level item,
        printItems_indented level items]
      rfl

@[simp] theorem printMembers_indented :
    ∀ (level : Nat) (members : List (String × Value)),
      indented.printMembers level members = Value.printIndentedMembers level members
  | _, [] => rfl
  | level, (name, value) :: members => by
      simp only [printMembers, Value.printIndentedMembers,
        print_indented level value, printMembers_indented level members]
      simp [indented]

end

end Spacing

@[simp] theorem Value.toList_compact (value : Value) :
    value.compact.toList = Spacing.compact.print 0 value := by
  simp [compact]

@[simp] theorem Value.toList_indented (value : Value) :
    value.indented.toList = Spacing.indented.print 0 value := by
  simp [indented]

end Assay.Json
