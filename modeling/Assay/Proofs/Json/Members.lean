import Assay.Proofs.Json.Decoded
import Assay.Proofs.Json.Equality

/-!
# Equality of objects

Objects are equal if they have the same names with equal values, whatever the order
in which their members were given and however often.
-/

namespace Assay.Json.Value

variable {left right : List (String × Value)}

/-- The value of the first member of a name. -/
def member? (name : String) (members : List (String × Value)) : Option Value :=
  (members.find? (·.1 == name)).map (·.2)

theorem member?_cons (name : String) (member : String × Value)
    (members : List (String × Value)) :
    member? name (member :: members) =
      if member.1 = name then some member.2 else member? name members := by
  by_cases wanted : member.1 = name <;> simp [member?, wanted]

theorem member?_of_below
    {name : String} (below : ∀ member ∈ left, name < member.1) : member? name left = none := by
  have absent : left.find? (·.1 == name) = none := by
    apply List.find?_eq_none.mpr
    intro member inside same
    have equal : member.1 = name := by simpa using same
    exact String.lt_irrefl name (equal ▸ below member inside)
  rw [member?, absent, Option.map_none]

/-- What is below the first name of an ordered list is below all of its names. -/
theorem belowAll
    {name : String} {first : String × Value} {rest : List (String × Value)}
    (below : name < first.1) (firstBelow : ∀ member ∈ rest, first.1 < member.1) :
    ∀ member ∈ first :: rest, name < member.1 :=
  List.forall_mem_cons.mpr
    ⟨below, fun member inside => String.lt_trans below (firstBelow member inside)⟩

theorem rel_member?_of_sameMembers
    (same : sameMembers left right = true) (name : String) :
    Option.Rel (fun first second => first.same second = true)
      (member? name left) (member? name right) := by
  induction left generalizing right with
  | nil =>
      cases right with
      | nil => exact .none
      | cons member members => simp [sameMembers] at same
  | cons first rest induction =>
      cases right with
      | nil => simp [sameMembers] at same
      | cons member members =>
          simp only [sameMembers, Bool.and_eq_true, beq_iff_eq] at same
          obtain ⟨⟨sameName, sameValue⟩, sameRest⟩ := same
          rw [member?_cons, member?_cons, sameName]
          by_cases wanted : member.1 = name
          · rw [if_pos wanted, if_pos wanted]
            exact .some sameValue
          · rw [if_neg wanted, if_neg wanted]
            exact induction sameRest

/-- Members in order that are equal name by name are equal one by one. -/
theorem sameMembers_of_rel_member?
    (leftSorted : left.Pairwise fun earlier later => earlier.1 < later.1)
    (rightSorted : right.Pairwise fun earlier later => earlier.1 < later.1)
    (alike : ∀ name, Option.Rel (fun first second => first.same second = true)
      (member? name left) (member? name right)) :
    sameMembers left right = true := by
  induction left generalizing right with
  | nil =>
      cases right with
      | nil => rfl
      | cons member members =>
          have absent := alike member.1
          rw [member?_cons, if_pos rfl] at absent
          cases absent
  | cons first rest induction =>
      cases right with
      | nil =>
          have absent := alike first.1
          rw [member?_cons, if_pos rfl] at absent
          cases absent
      | cons member members =>
          obtain ⟨firstBelow, restSorted⟩ := List.pairwise_cons.mp leftSorted
          obtain ⟨memberBelow, membersSorted⟩ := List.pairwise_cons.mp rightSorted
          -- The first name of each list has to be in the other one, so neither is below.
          have sameName : first.1 = member.1 := by
            have firstAlike := alike first.1
            have memberAlike := alike member.1
            rw [member?_cons, if_pos rfl] at firstAlike
            rw [member?_cons _ member, if_pos rfl] at memberAlike
            rcases Std.lt_trichotomy first.1 member.1 with below | same | above
            · rw [member?_of_below (belowAll below memberBelow)] at firstAlike
              cases firstAlike
            · exact same
            · rw [member?_of_below (belowAll above firstBelow)] at memberAlike
              cases memberAlike
          have sameValue : first.2.same member.2 = true := by
            have firstAlike := alike member.1
            rw [member?_cons, member?_cons, if_pos sameName, if_pos rfl] at firstAlike
            cases firstAlike with
            | some same => exact same
          have sameRest : sameMembers rest members = true := by
            refine induction restSorted membersSorted ?_
            intro name
            by_cases own : member.1 = name
            · subst own
              rw [member?_of_below memberBelow, member?_of_below (sameName ▸ firstBelow)]
              exact .none
            · have later := alike name
              rwa [member?_cons, member?_cons, sameName, if_neg own, if_neg own] at later
          simp only [sameMembers, sameName, sameValue, sameRest, beq_self_eq_true, Bool.and_self]

/-- Objects are equal if they have equal values, or none, for every name. -/
theorem same_ofMembers_iff (left right : List (String × Value)) :
    (ofMembers left).same (ofMembers right) = true ↔
      ∀ name, Option.Rel (fun first second => first.same second = true)
        (NameTable.lastOf? name left) (NameTable.lastOf? name right) := by
  have content : ∀ (members : List (String × Value)) name,
      member? name (NameTable.empty.insertAll members).entries =
        NameTable.lastOf? name members := by
    intro members name
    exact (NameTable.find?_insertAll .empty members name).trans (by simp)
  simp only [← content]
  rw [ofMembers_eq_insertAll, ofMembers_eq_insertAll]
  constructor
  · exact rel_member?_of_sameMembers
  · exact sameMembers_of_rel_member? (NameTable.empty.insertAll left).sorted
      (NameTable.empty.insertAll right).sorted

/-- The order of members with different names makes no difference. -/
theorem ofMembers_eq_of_perm
    {left right : List (String × Value)} (permutation : left.Perm right)
    (distinct : (left.map (·.1)).Nodup) :
    ofMembers left = ofMembers right := by
  have sameTable : NameTable.empty.insertAll left = NameTable.empty.insertAll right := by
    apply NameTable.eq_of_find?
    intro name
    rw [NameTable.find?_insertAll, NameTable.find?_insertAll,
      NameTable.lastOf?_eq_of_perm permutation distinct]
  rw [ofMembers_eq_insertAll, ofMembers_eq_insertAll, sameTable]

end Assay.Json.Value
