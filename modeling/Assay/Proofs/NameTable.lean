import Assay.NameTable
import Mathlib.Data.List.Nodup

/-!
# Entries and look-up of tables

A name has at most one entry, so the entries of a table and the answers of its
look-up tell the same story.  The names come in strictly ascending order.  Of
several entries of one name that are put into a table, the last one stays.
-/

namespace Assay

/-- With one entry for every key, what is found is what is there. -/
theorem mem_iff_find?_of_distinct
    {κ α : Type} [BEq κ] [LawfulBEq κ] {entries : List (κ × α)}
    (distinct : (entries.map (·.1)).Nodup) (key : κ) (value : α) :
    (key, value) ∈ entries ↔ (entries.find? (·.1 == key)).map (·.2) = some value := by
  constructor
  · intro member
    have present : (entries.find? (·.1 == key)).isSome = true :=
      List.find?_isSome.mpr ⟨_, member, beq_self_eq_true key⟩
    obtain ⟨entry, search⟩ := Option.isSome_iff_exists.mp present
    have sought : entry.1 = key := by simpa using List.find?_some search
    have same : entry = (key, value) :=
      List.inj_on_of_nodup_map distinct (List.mem_of_find?_eq_some search) member sought
    rw [search, same, Option.map_some]
  · intro found
    obtain ⟨entry, search, rfl⟩ := Option.map_eq_some_iff.mp found
    have sought : entry.1 = key := by simpa using List.find?_some search
    rw [← sought]
    exact List.mem_of_find?_eq_some search

/-- With one entry for every key, only the order of the entries is not found. -/
theorem perm_of_find?_eq
    {κ α : Type} [BEq κ] [LawfulBEq κ] {left right : List (κ × α)}
    (leftDistinct : (left.map (·.1)).Nodup) (rightDistinct : (right.map (·.1)).Nodup)
    (same : ∀ key, (left.find? (·.1 == key)).map (·.2) =
      (right.find? (·.1 == key)).map (·.2)) :
    left.Perm right := by
  apply (List.perm_ext_iff_of_nodup leftDistinct.of_map rightDistinct.of_map).mpr
  rintro ⟨key, value⟩
  rw [mem_iff_find?_of_distinct leftDistinct, mem_iff_find?_of_distinct rightDistinct, same key]

namespace NameTable

variable {α : Type}

theorem names_ascending (table : NameTable α) :
    table.names.Pairwise (· < ·) :=
  List.pairwise_map.mpr table.sorted

theorem names_distinct (table : NameTable α) : table.names.Nodup := by
  apply table.names_ascending.imp
  rintro name _ below rfl
  exact String.lt_irrefl name below

@[simp] theorem mem_entries_iff (table : NameTable α) (name : String) (value : α) :
    (name, value) ∈ table.entries ↔ table.find? name = some value :=
  mem_iff_find?_of_distinct table.names_distinct name value

@[simp] theorem mem_names_iff (table : NameTable α) (name : String) :
    name ∈ table.names ↔ ∃ value, table.find? name = some value := by
  constructor
  · intro member
    obtain ⟨⟨_, value⟩, entryMember, rfl⟩ := List.mem_map.mp member
    exact ⟨value, (mem_entries_iff table _ value).mp entryMember⟩
  · intro ⟨value, found⟩
    exact List.mem_map.mpr
      ⟨(name, value), (mem_entries_iff table name value).mpr found, rfl⟩

/-- Tables with the same answers are the same. -/
theorem eq_of_find?
    {left right : NameTable α} (same : ∀ name, left.find? name = right.find? name) :
    left = right := by
  have permutation : left.entries.Perm right.entries :=
    perm_of_find?_eq left.names_distinct right.names_distinct same
  have sameEntries : left.entries = right.entries :=
    permutation.eq_of_pairwise
      (fun _ _ _ _ below above => absurd (String.lt_trans below above) (String.lt_irrefl _))
      left.sorted right.sorted
  cases left
  cases right
  cases sameEntries
  rfl

/-! ## Several entries at once -/

/-- What the last of the entries of a name has. -/
def lastOf? (name : String) (entries : List (String × α)) : Option α :=
  (entries.reverse.find? (·.1 == name)).map (·.2)

theorem lastOf?_cons (name : String) (entry : String × α) (rest : List (String × α)) :
    lastOf? name (entry :: rest) =
      (lastOf? name rest).or (if entry.1 = name then some entry.2 else none) := by
  rw [lastOf?, List.reverse_cons, List.find?_append, Option.map_or]
  by_cases wanted : entry.1 = name <;> simp [lastOf?, wanted]

theorem find?_insertAll
    (table : NameTable α) (entries : List (String × α)) (name : String) :
    (table.insertAll entries).find? name =
      (lastOf? name entries).or (table.find? name) := by
  induction entries generalizing table with
  | nil => rfl
  | cons entry rest induction =>
      have step : table.insertAll (entry :: rest) =
          (table.insert entry.1 entry.2).insertAll rest := rfl
      rw [step, induction, lastOf?_cons, find?_insert, Option.or_assoc]
      split <;> rfl

/-- The order of entries with different names makes no difference. -/
theorem lastOf?_eq_of_perm
    {left right : List (String × α)} (permutation : left.Perm right)
    (distinct : (left.map (·.1)).Nodup) (name : String) :
    lastOf? name left = lastOf? name right := by
  have found : ∀ {entries : List (String × α)}, (entries.map (·.1)).Nodup → ∀ value,
      lastOf? name entries = some value ↔ (name, value) ∈ entries := by
    intro entries distinct value
    have reversed : (entries.reverse.map (·.1)).Nodup := by
      rw [List.map_reverse]
      exact List.nodup_reverse.mpr distinct
    rw [lastOf?, ← mem_iff_find?_of_distinct reversed, List.mem_reverse]
  have rightDistinct : (right.map (·.1)).Nodup := (permutation.map _).nodup_iff.mp distinct
  apply Option.ext
  intro value
  rw [found distinct, found rightDistinct, permutation.mem_iff]

theorem insertAll_append (table : NameTable α) (earlier later : List (String × α)) :
    table.insertAll (earlier ++ later) = (table.insertAll earlier).insertAll later :=
  List.foldl_append

end NameTable

end Assay
