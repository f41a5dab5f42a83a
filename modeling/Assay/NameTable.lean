/-!
# Tables by name

A table holds at most one entry for every name and lists its entries in
ascending order of their names.  The order is part of the type, so that two
tables with the same entries are equal.
-/

namespace Assay

structure NameTable (α : Type) where
  entries : List (String × α)
  sorted : entries.Pairwise fun earlier later => earlier.1 < later.1

namespace NameTable

variable {α : Type}

/-- Put an entry in its place, over the one of the same name. -/
def insertEntry (name : String) (value : α) : List (String × α) → List (String × α)
  | [] => [(name, value)]
  | entry :: rest =>
      if name < entry.1 then (name, value) :: entry :: rest
      else if name = entry.1 then (name, value) :: rest
      else entry :: insertEntry name value rest

theorem mem_insertEntry {name : String} {value : α} {entries : List (String × α)}
    {entry : String × α} (member : entry ∈ insertEntry name value entries) :
    entry = (name, value) ∨ entry ∈ entries := by
  induction entries with
  | nil => simpa [insertEntry] using member
  | cons first rest induction =>
      simp only [insertEntry] at member
      split at member
      · simpa using member
      · split at member
        · rcases List.mem_cons.mp member with same | later
          · exact Or.inl same
          · exact Or.inr (List.mem_cons_of_mem _ later)
        · rcases List.mem_cons.mp member with same | later
          · exact Or.inr (same ▸ List.mem_cons_self)
          · rcases induction later with inserted | present
            · exact Or.inl inserted
            · exact Or.inr (List.mem_cons_of_mem _ present)

theorem sorted_insertEntry (name : String) (value : α) {entries : List (String × α)}
    (sorted : entries.Pairwise fun earlier later => earlier.1 < later.1) :
    (insertEntry name value entries).Pairwise fun earlier later => earlier.1 < later.1 := by
  induction entries with
  | nil => simp [insertEntry]
  | cons first rest induction =>
      obtain ⟨firstBelow, restSorted⟩ := List.pairwise_cons.mp sorted
      simp only [insertEntry]
      split
      · rename_i below
        refine List.pairwise_cons.mpr ⟨?_, sorted⟩
        intro entry member
        rcases List.mem_cons.mp member with same | later
        · exact same ▸ below
        · exact String.lt_trans below (firstBelow entry later)
      · split
        · rename_i same
          refine List.pairwise_cons.mpr ⟨?_, restSorted⟩
          intro entry member
          exact same ▸ firstBelow entry member
        · rename_i notBelow different
          refine List.pairwise_cons.mpr ⟨?_, induction restSorted⟩
          intro entry member
          rcases mem_insertEntry member with inserted | present
          · subst inserted
            rcases Std.lt_trichotomy name first.1 with below | equal | above
            · exact absurd below notBelow
            · exact absurd equal different
            · exact above
          · exact firstBelow entry present

def empty : NameTable α := ⟨[], List.Pairwise.nil⟩

def insert (table : NameTable α) (name : String) (value : α) : NameTable α :=
  ⟨insertEntry name value table.entries, sorted_insertEntry name value table.sorted⟩

/-- Insert entries one after the other; the last one of a name stays. -/
def insertAll (table : NameTable α) (entries : List (String × α)) : NameTable α :=
  entries.foldl (fun table entry => table.insert entry.1 entry.2) table

def find? (table : NameTable α) (name : String) : Option α :=
  (table.entries.find? (·.1 == name)).map (·.2)

def contains (table : NameTable α) (name : String) : Bool := (table.find? name).isSome

def names (table : NameTable α) : List String := table.entries.map (·.1)

def size (table : NameTable α) : Nat := table.entries.length

@[simp] theorem find?_empty (name : String) : (empty : NameTable α).find? name = none := rfl

theorem find?_insertEntry (name : String) (value : α) (other : String) {entries : List (String × α)}
    (sorted : entries.Pairwise fun earlier later => earlier.1 < later.1) :
    ((insertEntry name value entries).find? (·.1 == other)).map (·.2) =
      if name = other then some value else (entries.find? (·.1 == other)).map (·.2) := by
  induction entries with
  | nil => by_cases same : name = other <;> simp [insertEntry, same]
  | cons first rest induction =>
      obtain ⟨firstBelow, restSorted⟩ := List.pairwise_cons.mp sorted
      simp only [insertEntry]
      split
      · by_cases same : name = other <;> simp [same]
      · split
        · rename_i same
          by_cases wanted : name = other
          · simp [wanted]
          · have firstUnwanted : first.1 ≠ other := fun equal => wanted (same.trans equal)
            simp [wanted, firstUnwanted]
        · rename_i different
          by_cases first_wanted : first.1 = other
          · have unequal : name ≠ other := fun equal => different (equal.trans first_wanted.symm)
            simp [first_wanted, unequal]
          · simp [first_wanted, induction restSorted]

@[simp] theorem find?_insert (table : NameTable α) (name : String) (value : α) (other : String) :
    (table.insert name value).find? other =
      if name = other then some value else table.find? other :=
  find?_insertEntry name value other table.sorted

end NameTable

end Assay
