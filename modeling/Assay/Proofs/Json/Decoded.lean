import Assay.Proofs.Json.Decoding
import Assay.Proofs.NameTable
import Mathlib.Data.List.Forall2

/-!
# What is taken out of a tree

A decoder succeeds only where it finds what it looks for.  A free-form value that was
taken out of a text is one as it is kept in memory, whatever the order of the members in
the text and however often a name came: it is nested no deeper than the text may be.
-/

namespace Assay.Json

namespace Value

theorem insertMember_eq_insertEntry
    (name : String) (value : Value) (members : List (String × Value)) :
    insertMember name value members = NameTable.insertEntry name value members := by
  induction members with
  | nil => rfl
  | cons first rest induction =>
      simp only [insertMember, NameTable.insertEntry, induction]

/-- The members of an object are the entries of a table. -/
theorem ofMembers_eq_insertAll (members : List (String × Value)) :
    ofMembers members = .object (NameTable.empty.insertAll members).entries := by
  have entries : ∀ table : NameTable Value,
      members.foldl (fun sorted member => insertMember member.1 member.2 sorted)
        table.entries = (table.insertAll members).entries := by
    induction members with
    | nil => exact fun _ => rfl
    | cons first rest induction =>
        intro table
        rw [List.foldl_cons, insertMember_eq_insertEntry]
        exact induction (table.insert first.1 first.2)
  exact congrArg object (entries .empty)

theorem mem_of_mem_insertAll
    {members : List (String × Value)} {table : NameTable Value} {member : String × Value}
    (present : member ∈ (table.insertAll members).entries) :
    member ∈ table.entries ∨ member ∈ members := by
  induction members generalizing table with
  | nil => exact .inl present
  | cons first rest induction =>
      rcases induction present with known | later
      · rcases NameTable.mem_insertEntry known with rfl | known
        · exact .inr List.mem_cons_self
        · exact .inl known
      · exact .inr (List.mem_cons_of_mem _ later)

theorem OrderedWithin.ofMembers
    {levels : Nat} {members : List (String × Value)}
    (each : ∀ member ∈ members, member.2.OrderedWithin levels) :
    (Value.ofMembers members).OrderedWithin (levels + 1) := by
  rw [ofMembers_eq_insertAll]
  refine .object (NameTable.empty.insertAll members).sorted ?_
  intro member present
  rcases mem_of_mem_insertAll present with known | given
  · contradiction
  · exact each member given

end Value

namespace Decoder

variable {α : Type} {decode : Decoder α} {medium : Medium} {source : Source}

theorem checked_eq_ok
    {ε : Type} {check : String → Except ε α} {reason : ε → String} {content : α}
    (read : checked check reason medium source = .ok content) :
    ∃ text, source = .string text ∧ check text = .ok content := by
  cases source with
  | string given => exact ⟨given, rfl, checked_string_eq_ok read⟩
  | _ => contradiction

theorem bool_eq_ok {content : Bool} (read : bool medium source = .ok content) :
    source = .bool content := by
  cases source with
  | bool given => rw [Except.ok.inj read]
  | _ => contradiction

theorem items_eq_ok
    {sources : List Source} {contents : List α}
    (read : items decode medium sources = .ok contents) :
    List.Forall₂ (fun source content => decode medium source = .ok content)
      sources contents := by
  induction sources generalizing contents with
  | nil =>
      cases read
      exact .nil
  | cons source sources induction =>
      rw [items] at read
      obtain ⟨content, first, read⟩ := bind_eq_ok read
      obtain ⟨contents, rest, read⟩ := bind_eq_ok read
      cases read
      exact .cons first (induction rest)

theorem exists_source_of_mem
    {sources : List Source} {contents : List α}
    (each : List.Forall₂ (fun source content => decode medium source = .ok content)
      sources contents) {content : α} (member : content ∈ contents) :
    ∃ source ∈ sources, decode medium source = .ok content := by
  induction each with
  | nil => contradiction
  | @cons source first sources contents taken _ induction =>
      rcases List.mem_cons.mp member with rfl | later
      · exact ⟨source, List.mem_cons_self, taken⟩
      · obtain ⟨other, present, taken⟩ := induction later
        exact ⟨other, List.mem_cons_of_mem source present, taken⟩

theorem list_eq_ok {contents : List α} (read : list decode medium source = .ok contents) :
    ∃ inner sources ending, medium.enter = .ok inner ∧ source = .array sources ending ∧
      List.Forall₂ (fun source content => decode inner source = .ok content)
        sources contents := by
  cases source with
  | array sources ending =>
      rw [list] at read
      obtain ⟨inner, entered, read⟩ := bind_eq_ok read
      obtain ⟨contents, found, read⟩ := bind_eq_ok read
      obtain ⟨_, _, read⟩ := bind_eq_ok read
      cases read
      exact ⟨inner, sources, ending, entered, rfl, items_eq_ok found⟩
  | _ => contradiction

/-- What is read from a text was taken out of its tree. -/
theorem readText_eq_ok {text : String} {content : α} (read : decode.readText text = .ok content) :
    decode (.text textLevels) (Source.read text.toList).1 = .ok content := by
  rcases tree : Source.read text.toList with ⟨source, rest⟩
  rw [readText, tree] at read
  obtain ⟨taken, decoded, ending⟩ := bind_eq_ok read
  rw [decoded]
  split at ending
  · split at ending
    · exact ending
    · contradiction
  · contradiction

theorem enter_text_eq_ok
    {levels : Nat} {inner : Medium} (entered : Medium.enter (.text levels) = .ok inner) :
    ∃ fewer, levels = fewer + 1 ∧ inner = .text fewer := by
  cases levels with
  | zero => contradiction
  | succ fewer => exact ⟨fewer, rfl, (Except.ok.inj entered).symm⟩

mutual

theorem orderedWithin_of_value :
    ∀ (source : Source) {levels : Nat} {content : Value},
      value source (.text levels) = .ok content → content.OrderedWithin levels
  | .null, _, _, read => by
      cases read
      exact .null
  | .bool given, _, _, read => by
      cases read
      exact .bool given
  | .number given, _, _, read => by
      cases read
      exact .number given
  | .string given, _, _, read => by
      cases read
      exact .string given
  | .flawed _, _, _, read => by contradiction
  | .array sources _, _, _, read => by
      rw [value] at read
      obtain ⟨inner, entered, within⟩ := bind_eq_ok read
      obtain ⟨contents, found, ending⟩ := bind_eq_ok within
      obtain ⟨_, _, finished⟩ := bind_eq_ok ending
      obtain ⟨fewer, rfl, rfl⟩ := enter_text_eq_ok entered
      cases finished
      exact .array (orderedWithin_of_valueItems sources found)
  | .object members _, _, _, read => by
      rw [value] at read
      obtain ⟨inner, entered, within⟩ := bind_eq_ok read
      obtain ⟨contents, found, ending⟩ := bind_eq_ok within
      obtain ⟨_, _, finished⟩ := bind_eq_ok ending
      obtain ⟨fewer, rfl, rfl⟩ := enter_text_eq_ok entered
      cases finished
      exact .ofMembers (orderedWithin_of_valueMembers members found)

theorem orderedWithin_of_valueItems :
    ∀ (sources : List Source) {levels : Nat} {contents : List Value},
      valueItems sources (.text levels) = .ok contents →
        ∀ content ∈ contents, content.OrderedWithin levels
  | [], _, _, read => by
      cases read
      exact List.forall_mem_nil _
  | source :: sources, _, _, read => by
      rw [valueItems] at read
      obtain ⟨content, first, read⟩ := bind_eq_ok read
      obtain ⟨contents, rest, read⟩ := bind_eq_ok read
      cases read
      exact List.forall_mem_cons.mpr
        ⟨orderedWithin_of_value source first, orderedWithin_of_valueItems sources rest⟩

theorem orderedWithin_of_valueMembers :
    ∀ (members : List (Key × Source)) {levels : Nat} {contents : List (String × Value)},
      valueMembers members (.text levels) = .ok contents →
        ∀ member ∈ contents, member.2.OrderedWithin levels
  | [], _, _, read => by
      cases read
      exact List.forall_mem_nil _
  | (key, source) :: members, _, _, read => by
      rw [valueMembers] at read
      obtain ⟨name, _, read⟩ := bind_eq_ok read
      obtain ⟨content, first, read⟩ := bind_eq_ok read
      obtain ⟨contents, rest, read⟩ := bind_eq_ok read
      cases read
      exact List.forall_mem_cons.mpr
        ⟨orderedWithin_of_value source first, orderedWithin_of_valueMembers members rest⟩

end

end Decoder

end Assay.Json
