import Assay.Proofs.Json.Literal
import Assay.Proofs.Json.Quotation
import Assay.Proofs.Json.Spacing

/-!
# Reading the text of a value

The text of a value is read as a tree of the form of that value, whatever blanks
stand between its parts and whatever follows it.  It is the tree of the value
itself if the numbers of the value are those that their texts stand for.
-/

namespace Assay.Json

/-- The numbers of a value are those that their texts stand for. -/
inductive Value.Legible : Value → Prop where
  | null : Legible .null
  | bool (content : Bool) : Legible (.bool content)
  | number {content : Number} (readsBack : content.ReadsBack) :
      Legible (.number content)
  | string (text : String) : Legible (.string text)
  | array {items : List Value} (each : ∀ item ∈ items, Legible item) :
      Legible (.array items)
  | object {members : List (String × Value)}
      (each : ∀ member ∈ members, Legible member.2) : Legible (.object members)

/-! ## Trees of texts -/

namespace Source

mutual

/-- The tree of the text of a value: in place of every number it has what the
text of that number is read as. -/
def reread : Value → Source
  | .null => .null
  | .bool content => .bool content
  | .number content => content.reread
  | .string text => .string text
  | .array items => .array (rereadItems items) none
  | .object members => .object (rereadMembers members) none

def rereadItems : List Value → List Source
  | [] => []
  | item :: items => reread item :: rereadItems items

def rereadMembers : List (String × Value) → List (Key × Source)
  | [] => []
  | (name, value) :: members => (.ok name, reread value) :: rereadMembers members

end

theorem rereadItems_of_each
    {items : List Value} (each : ∀ item ∈ items, reread item = .ofValue item) :
    rereadItems items = ofItems items := by
  induction items with
  | nil => rfl
  | cons item items induction =>
      obtain ⟨first, rest⟩ := List.forall_mem_cons.mp each
      rw [rereadItems, ofItems, first, induction rest]

theorem rereadMembers_of_each
    {members : List (String × Value)}
    (each : ∀ member ∈ members, reread member.2 = .ofValue member.2) :
    rereadMembers members = ofMembers members := by
  induction members with
  | nil => rfl
  | cons member members induction =>
      obtain ⟨first, rest⟩ := List.forall_mem_cons.mp each
      rw [rereadMembers, ofMembers, first, induction rest]

theorem reread_of_legible {value : Value} (legible : value.Legible) :
    reread value = .ofValue value := by
  induction legible with
  | null => rfl
  | bool content => rfl
  | number readsBack => exact (Number.readsBack_iff _).mp readsBack
  | string text => rfl
  | array each induction => rw [reread, ofValue, rereadItems_of_each induction]
  | object each induction => rw [reread, ofValue, rereadMembers_of_each induction]

end Source

/-! ## Blanks -/

theorem skipSpace_append
    {blanks : List Char} (blank : ∀ character ∈ blanks, isSpace character = true)
    (rest : List Char) : skipSpace (blanks ++ rest) = skipSpace rest :=
  List.dropWhile_append_of_pos blank

theorem skipSpace_cons
    {character : Char} (notBlank : isSpace character = false) (rest : List Char) :
    skipSpace (character :: rest) = character :: rest := by
  simp [skipSpace, notBlank]

theorem endsLiteral_append
    {blanks rest : List Char} (blank : ∀ character ∈ blanks, isSpace character = true)
    (ends : EndsLiteral rest) : EndsLiteral (blanks ++ rest) := by
  cases blanks with
  | nil => exact ends
  | cons character blanks =>
      apply endsLiteral_cons
      have space := blank character List.mem_cons_self
      simp only [isSpace, Bool.or_eq_true, beq_iff_eq] at space
      rcases space with ((rfl | rfl) | rfl) | rfl <;> decide

theorem readValue_append
    {blanks : List Char} (blank : ∀ character ∈ blanks, isSpace character = true)
    (fuel : Nat) (text : List Char) :
    readValue fuel (blanks ++ text) = readValue fuel text := by
  cases fuel with
  | zero => rfl
  | succ fuel => rw [readValue, readValue, skipSpace_append blank]

/-! ## Scalars -/

theorem readValue_of_literal
    (fuel : Nat) {first : Char} (begins : first = '-' ∨ first.isDigit = true)
    (more : List Char) :
    readValue (fuel + 1) (first :: more) = readNumber (first :: more) := by
  have notBlank : isSpace first = false := by
    rcases begins with rfl | digit
    · rfl
    · simp only [isSpace, Bool.or_eq_false_iff, beq_eq_false_iff_ne]
      refine ⟨⟨⟨?_, ?_⟩, ?_⟩, ?_⟩ <;> (rintro rfl; contradiction)
  have foreign : ∀ character ∈ ['n', 't', 'f', '"', '[', '\x7b'],
      first ≠ character := by
    intro character member same
    subst same
    simp only [List.mem_cons, List.not_mem_nil, or_false] at member
    rcases member with rfl | rfl | rfl | rfl | rfl | rfl <;> simp at begins
  rw [readValue, skipSpace_cons notBlank]
  simp only [List.forall_mem_cons] at foreign
  obtain ⟨notNull, notTrue, notFalse, notQuote, notArray, notObject, _⟩ := foreign
  split
  · contradiction
  all_goals rename_i equality
  all_goals obtain ⟨rfl, rfl⟩ := List.cons.inj equality
  · exact absurd rfl notNull
  · exact absurd rfl notTrue
  · exact absurd rfl notFalse
  · exact absurd rfl notQuote
  · exact absurd rfl notArray
  · exact absurd rfl notObject
  · rw [if_pos begins]

namespace Spacing

variable (spacing : Spacing)

/-- The text of the value, at any level and in front of anything that does not
go on with a literal, is read as its tree. -/
def Reads (value : Value) : Prop :=
  ∀ (level fuel : Nat) (rest : List Char),
    2 * (spacing.print level value).length ≤ fuel → EndsLiteral rest →
      readValue fuel (spacing.print level value ++ rest) =
        (Source.reread value, .ok rest)

variable {spacing}

private theorem exists_succ_of_enough
    {text : List Char} {fuel : Nat} (enough : 2 * text.length ≤ fuel)
    (nonempty : text ≠ []) : ∃ left, fuel = left + 1 := by
  have positive := List.length_pos_iff.mpr nonempty
  exact ⟨fuel - 1, by omega⟩

theorem reads_null : spacing.Reads .null := by
  intro level fuel rest enough _
  obtain ⟨fuel, rfl⟩ := exists_succ_of_enough enough (by simp [print])
  rfl

theorem reads_bool (content : Bool) : spacing.Reads (.bool content) := by
  intro level fuel rest enough _
  cases content with
  | false =>
      obtain ⟨fuel, rfl⟩ := exists_succ_of_enough enough (by simp [print])
      rfl
  | true =>
      obtain ⟨fuel, rfl⟩ := exists_succ_of_enough enough (by simp [print])
      rfl

theorem reads_string (text : String) : spacing.Reads (.string text) := by
  intro level fuel rest enough _
  obtain ⟨fuel, rfl⟩ :=
    exists_succ_of_enough enough (by simp [print, printString])
  rw [print, printString_append, readValue, skipSpace_cons rfl]
  exact readString_escaped text

theorem reads_number (number : Number) : spacing.Reads (.number number) := by
  intro level fuel rest enough ends
  obtain ⟨first, more, text, begins⟩ := number.head_print
  obtain ⟨fuel, rfl⟩ := exists_succ_of_enough enough (by simp [print, text])
  rw [print, text, List.cons_append, readValue_of_literal fuel begins,
    ← List.cons_append, ← text]
  exact readNumber_append ends number.readNumber_print

/-! ## Arrays -/

end Spacing

/-- A value that could be read did not begin with a closing bracket. -/
theorem skipSpace_of_readValue
    {fuel : Nat} {text rest : List Char} {source : Source}
    (read : readValue fuel text = (source, .ok rest)) :
    ∃ first more, skipSpace text = first :: more ∧ first ≠ ']' := by
  cases fuel with
  | zero => simp [readValue, Reading.failed] at read
  | succ fuel =>
      rw [readValue] at read
      cases begins : skipSpace text with
      | nil => simp [begins, Reading.failed] at read
      | cons first more =>
          refine ⟨first, more, rfl, ?_⟩
          rintro rfl
          have notDigit : ']'.isDigit = false := rfl
          simp [begins, Reading.failed, notDigit] at read

theorem readItems_last
    {fuel : Nat} {text left rest : List Char} {source : Source}
    (read : readValue fuel text = (source, .ok left))
    (closed : skipSpace left = ']' :: rest) :
    readItems (fuel + 1) text = ([source], none, .ok rest) := by
  rw [readItems]
  simp only [read, closed]

theorem readItems_more
    {fuel : Nat} {text left next rest : List Char} {source : Source}
    {sources : List Source}
    (read : readValue fuel text = (source, .ok left))
    (separated : skipSpace left = ',' :: next)
    (notClosed : ∀ more, skipSpace next ≠ ']' :: more)
    (later : readItems fuel next = (sources, none, .ok rest)) :
    readItems (fuel + 1) text = (source :: sources, none, .ok rest) := by
  rw [readItems]
  simp only [read, separated, later]

theorem readMembers_last
    {fuel : Nat} {text value left rest : List Char} {name : String} {source : Source}
    (named : readKey text = (.ok name, .ok value))
    (read : readValue fuel value = (source, .ok left))
    (closed : skipSpace left = '\x7d' :: rest) :
    readMembers (fuel + 1) text = ([(.ok name, source)], none, .ok rest) := by
  rw [readMembers]
  simp only [named, read, closed]

theorem readMembers_more
    {fuel : Nat} {text value left next after rest : List Char} {name : String}
    {source : Source} {members : List (Key × Source)}
    (named : readKey text = (.ok name, .ok value))
    (read : readValue fuel value = (source, .ok left))
    (separated : skipSpace left = ',' :: next)
    (quoted : skipSpace next = '"' :: after)
    (later : readMembers fuel after = (members, none, .ok rest)) :
    readMembers (fuel + 1) text = ((.ok name, source) :: members, none, .ok rest) := by
  rw [readMembers]
  simp only [named, read, separated, quoted, later]

namespace Spacing

variable {spacing : Spacing}

/-- The rest of an array after one of its items. -/
private def restOfArray (spacing : Spacing) (inner outer : Nat) (items : List Value)
    (rest : List Char) : List Char :=
  spacing.printItems inner items ++ (spacing.line outer ++ ']' :: rest)

private theorem endsLiteral_restOfArray
    (spacing : Spacing) (inner outer : Nat) (items : List Value) (rest : List Char) :
    EndsLiteral (spacing.restOfArray inner outer items rest) := by
  cases items with
  | nil =>
      rw [restOfArray, printItems, List.nil_append]
      exact endsLiteral_append (spacing.line_blank outer)
        (endsLiteral_cons rest (by decide))
  | cons item items =>
      rw [restOfArray, printItems, List.cons_append]
      exact endsLiteral_cons _ (by decide)

private theorem readItems_print
    {item : Value} {items : List Value}
    (each : ∀ other ∈ item :: items, spacing.Reads other)
    {inner fuel : Nat}
    (enough : 2 * (spacing.print inner item ++
      spacing.printItems inner items).length + 1 ≤ fuel)
    (outer : Nat) (rest : List Char) :
    readItems fuel (spacing.line inner ++ (spacing.print inner item ++
        spacing.restOfArray inner outer items rest)) =
      (Source.rereadItems (item :: items), none, .ok rest) := by
  induction items generalizing item fuel with
  | nil =>
      obtain ⟨fuel, rfl⟩ : ∃ left, fuel = left + 1 := ⟨fuel - 1, by omega⟩
      have read := each item List.mem_cons_self inner fuel _
        (by simp [printItems] at enough; omega)
        (endsLiteral_restOfArray spacing inner outer [] rest)
      rw [← readValue_append (spacing.line_blank inner)] at read
      apply readItems_last read
      rw [restOfArray, printItems, List.nil_append,
        skipSpace_append (spacing.line_blank outer), skipSpace_cons rfl]
  | cons next items induction =>
      obtain ⟨fuel, rfl⟩ : ∃ left, fuel = left + 1 := ⟨fuel - 1, by omega⟩
      simp only [printItems, List.length_append, List.length_cons] at enough
      obtain ⟨itemReads, laterReads⟩ := List.forall_mem_cons.mp each
      have read := itemReads inner fuel _ (by omega)
        (endsLiteral_restOfArray spacing inner outer (next :: items) rest)
      have nextRead := laterReads next List.mem_cons_self inner fuel _ (by omega)
        (endsLiteral_restOfArray spacing inner outer items rest)
      have enoughLater : 2 * (spacing.print inner next ++
          spacing.printItems inner items).length + 1 ≤ fuel := by
        rw [List.length_append]
        omega
      have later := induction laterReads enoughLater
      have shape : spacing.restOfArray inner outer (next :: items) rest =
          ',' :: (spacing.line inner ++ (spacing.print inner next ++
            spacing.restOfArray inner outer items rest)) := by
        simp [restOfArray, printItems]
      rw [← readValue_append (spacing.line_blank inner)] at read
      apply readItems_more read
      · rw [shape]
        exact skipSpace_cons rfl _
      · intro more closed
        rw [skipSpace_append (spacing.line_blank inner)] at closed
        obtain ⟨first, after, begins, different⟩ := skipSpace_of_readValue nextRead
        rw [closed] at begins
        exact different (List.cons.inj begins).1.symm
      · exact later

theorem reads_array
    {items : List Value} (each : ∀ item ∈ items, spacing.Reads item) :
    spacing.Reads (.array items) := by
  intro level fuel rest enough _
  cases items with
  | nil =>
      obtain ⟨fuel, rfl⟩ := exists_succ_of_enough enough (by simp [print])
      rfl
  | cons item items =>
      obtain ⟨fuel, rfl⟩ := exists_succ_of_enough enough (by simp [print])
      simp only [print, List.length_append, List.length_cons] at enough
      have itemRead := each item List.mem_cons_self (level + 1) fuel _ (by omega)
        (endsLiteral_restOfArray spacing (level + 1) level items rest)
      have enoughInside : 2 * (spacing.print (level + 1) item ++
          spacing.printItems (level + 1) items).length + 1 ≤ fuel := by
        rw [List.length_append]
        omega
      have read := readItems_print each enoughInside level rest
      obtain ⟨first, more, begins, different⟩ := skipSpace_of_readValue itemRead
      have shape : spacing.print level (.array (item :: items)) ++ rest =
          '[' :: (spacing.line (level + 1) ++ (spacing.print (level + 1) item ++
            spacing.restOfArray (level + 1) level items rest)) := by
        simp [print, restOfArray]
      rw [shape, readValue, skipSpace_cons rfl]
      simp only [skipSpace_append (spacing.line_blank (level + 1)), begins, read]
      rfl

/-! ## Objects -/

/-- A name and its colon, after the opening quote. -/
private def restOfName (spacing : Spacing) (name : String) (value : List Char) :
    List Char :=
  name.toList.flatMap escapeCharacter ++ '"' :: ':' :: (spacing.afterColon ++ value)

/-- The rest of an object after one of its members. -/
private def restOfObject (spacing : Spacing) (inner outer : Nat)
    (members : List (String × Value)) (rest : List Char) : List Char :=
  spacing.printMembers inner members ++ (spacing.line outer ++ '\x7d' :: rest)

private theorem endsLiteral_restOfObject
    (spacing : Spacing) (inner outer : Nat) (members : List (String × Value))
    (rest : List Char) :
    EndsLiteral (spacing.restOfObject inner outer members rest) := by
  cases members with
  | nil =>
      rw [restOfObject, printMembers, List.nil_append]
      exact endsLiteral_append (spacing.line_blank outer)
        (endsLiteral_cons rest (by decide))
  | cons member members =>
      rw [restOfObject, printMembers, List.cons_append]
      exact endsLiteral_cons _ (by decide)

private theorem readMembers_print
    {name : String} {value : Value} {members : List (String × Value)}
    (each : ∀ member ∈ (name, value) :: members, spacing.Reads member.2)
    {inner fuel : Nat}
    (enough : 2 * (spacing.print inner value ++
      spacing.printMembers inner members).length + 1 ≤ fuel)
    (outer : Nat) (rest : List Char) :
    readMembers fuel (spacing.restOfName name (spacing.print inner value ++
        spacing.restOfObject inner outer members rest)) =
      (Source.rereadMembers ((name, value) :: members), none, .ok rest) := by
  induction members generalizing name value fuel with
  | nil =>
      obtain ⟨fuel, rfl⟩ : ∃ left, fuel = left + 1 := ⟨fuel - 1, by omega⟩
      have read := each (name, value) List.mem_cons_self inner fuel _
        (by simp [printMembers] at enough; omega)
        (endsLiteral_restOfObject spacing inner outer [] rest)
      rw [← readValue_append spacing.afterColon_blank] at read
      apply readMembers_last (readKey_escaped name) read
      rw [restOfObject, printMembers, List.nil_append,
        skipSpace_append (spacing.line_blank outer), skipSpace_cons rfl]
  | cons next members induction =>
      obtain ⟨nextName, nextValue⟩ := next
      obtain ⟨fuel, rfl⟩ : ∃ left, fuel = left + 1 := ⟨fuel - 1, by omega⟩
      simp only [printMembers, List.length_append, List.length_cons] at enough
      obtain ⟨valueReads, laterReads⟩ := List.forall_mem_cons.mp each
      have read := valueReads inner fuel _ (by dsimp only; omega)
        (endsLiteral_restOfObject spacing inner outer
          ((nextName, nextValue) :: members) rest)
      have enoughLater : 2 * (spacing.print inner nextValue ++
          spacing.printMembers inner members).length + 1 ≤ fuel := by
        rw [List.length_append]
        omega
      have later := induction laterReads enoughLater
      have shape :
          spacing.restOfObject inner outer ((nextName, nextValue) :: members) rest =
            ',' :: (spacing.line inner ++ '"' :: spacing.restOfName nextName
              (spacing.print inner nextValue ++
                spacing.restOfObject inner outer members rest)) := by
        simp [restOfObject, restOfName, printMembers, printString]
      rw [← readValue_append spacing.afterColon_blank] at read
      apply readMembers_more (readKey_escaped name) read
      · rw [shape]
        exact skipSpace_cons rfl _
      · rw [skipSpace_append (spacing.line_blank inner), skipSpace_cons rfl]
      · exact later

theorem reads_object
    {members : List (String × Value)}
    (each : ∀ member ∈ members, spacing.Reads member.2) :
    spacing.Reads (.object members) := by
  intro level fuel rest enough _
  cases members with
  | nil =>
      obtain ⟨fuel, rfl⟩ := exists_succ_of_enough enough (by simp [print])
      rfl
  | cons member members =>
      obtain ⟨name, value⟩ := member
      obtain ⟨fuel, rfl⟩ := exists_succ_of_enough enough (by simp [print])
      simp only [print, List.length_append, List.length_cons] at enough
      have enoughInside : 2 * (spacing.print (level + 1) value ++
          spacing.printMembers (level + 1) members).length + 1 ≤ fuel := by
        rw [List.length_append]
        omega
      have read := readMembers_print each enoughInside level rest
      have shape : spacing.print level (.object ((name, value) :: members)) ++ rest =
          '\x7b' :: (spacing.line (level + 1) ++ '"' :: spacing.restOfName name
            (spacing.print (level + 1) value ++
              spacing.restOfObject (level + 1) level members rest)) := by
        simp [print, restOfObject, restOfName, printString]
      have quoted : ∀ text, skipSpace ('"' :: text) = '"' :: text :=
        fun text => skipSpace_cons rfl text
      rw [shape, readValue, skipSpace_cons rfl]
      simp only [skipSpace_append (spacing.line_blank (level + 1)), quoted, read]
      rfl

mutual

theorem reads (spacing : Spacing) : (value : Value) → spacing.Reads value
  | .null => reads_null
  | .bool content => reads_bool content
  | .number content => reads_number content
  | .string text => reads_string text
  | .array items => reads_array (reads_items spacing items)
  | .object members => reads_object (reads_members spacing members)

theorem reads_items (spacing : Spacing) :
    (items : List Value) → ∀ item ∈ items, spacing.Reads item
  | [] => List.forall_mem_nil _
  | item :: items => List.forall_mem_cons.mpr ⟨reads spacing item, reads_items spacing items⟩

theorem reads_members (spacing : Spacing) :
    (members : List (String × Value)) → ∀ member ∈ members, spacing.Reads member.2
  | [] => List.forall_mem_nil _
  | (_, value) :: members =>
      List.forall_mem_cons.mpr ⟨reads spacing value, reads_members spacing members⟩

end

end Spacing

/-- A whole text is read as its tree, with nothing left. -/
theorem Source.read_print (spacing : Spacing) (value : Value) :
    Source.read (spacing.print 0 value) = (.reread value, .ok []) := by
  have read := Spacing.reads spacing value 0
    (2 * (spacing.print 0 value).length + 2) [] (by omega) endsLiteral_nil
  rw [List.append_nil] at read
  exact read

end Assay.Json
