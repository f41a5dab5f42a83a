import Assay.Proofs.Suite.Inputs
import Assay.Suite
import Mathlib.Data.List.Induction

/-!
# First references to shared inputs

A reference stands at the position of an instance and at a name that the
instance binds.  The inputs of a suite come in the order of their first
references, and a conflict is told at the first reference that disagrees with
the first one of its name.
-/

namespace Assay

variable {σ : Type}

/-- The place of a reference. -/
structure Site where
  position : Nat
  parameter : String

/-- Instances come in the order of a suite, the bindings of one instance in the
order of their names. -/
def Site.Before (earlier later : Site) : Prop :=
  earlier.position < later.position ∨
    earlier.position = later.position ∧ earlier.parameter < later.parameter

theorem Site.Before.trans
    {first second third : Site}
    (left : first.Before second) (right : second.Before third) :
    first.Before third := by
  rcases left with lower | ⟨samePosition, lower⟩
  · rcases right with higher | ⟨alsoSamePosition, _⟩
    · exact Or.inl (Nat.lt_trans lower higher)
    · exact Or.inl (alsoSamePosition ▸ lower)
  · rcases right with higher | ⟨alsoSamePosition, higher⟩
    · exact Or.inl (samePosition ▸ higher)
    · exact Or.inr ⟨samePosition.trans alsoSamePosition,
        String.lt_trans lower higher⟩

theorem Site.Before.irrefl (site : Site) : ¬site.Before site := by
  rintro (lower | ⟨_, lower⟩)
  · exact Nat.lt_irrefl _ lower
  · exact String.lt_irrefl _ lower

theorem Site.before_or_eq_or_before (left right : Site) :
    left.Before right ∨ left = right ∨ right.Before left := by
  rcases Nat.lt_trichotomy left.position right.position with
    lower | samePosition | higher
  · exact Or.inl (Or.inl lower)
  · rcases Std.lt_trichotomy left.parameter right.parameter with
      lower | sameParameter | higher
    · exact Or.inl (Or.inr ⟨samePosition, lower⟩)
    · cases left
      cases right
      simp_all
    · exact Or.inr (Or.inr (Or.inr ⟨samePosition.symm, higher⟩))
  · exact Or.inr (Or.inr (Or.inl higher))

/-- The instance at the position of the site wires the name to the
placeholder. -/
def RefersAt (instances : List (Instance σ)) (site : Site)
    (placeholder : SuiteInput) : Prop :=
  ∃ bound, instances[site.position]? = some bound ∧
    bound.bindings.find? site.parameter = some (.input placeholder)

/-- The first reference to a placeholder of its name. -/
structure Opens (instances : List (Instance σ)) (site : Site)
    (placeholder : SuiteInput) : Prop where
  refers : RefersAt instances site placeholder
  first : ∀ other earlier, RefersAt instances other earlier →
    earlier.name = placeholder.name → ¬other.Before site

/-- A reference whose type differs from that of the first reference of its
name. -/
structure Clashes (instances : List (Instance σ)) (site : Site)
    (first clash : SuiteInput) : Prop where
  refers : RefersAt instances site clash
  opened : ∃ opening, Opens instances opening first
  sameName : first.name = clash.name
  differs : first.type ≠ clash.type

/-- Every placeholder that is referenced, once, in the order of the first
references. -/
structure InReferenceOrder (instances : List (Instance σ))
    (inputs : List SuiteInput) : Prop where
  distinct : (inputs.map (·.name)).Nodup
  members : ∀ input, input ∈ inputs ↔ ∃ site, RefersAt instances site input
  ordered : inputs.Pairwise fun earlier later =>
    ∀ site, RefersAt instances site later →
      ∃ other, RefersAt instances other earlier ∧ other.Before site

/-- The first reference to a name stands before a site when any reference to
the name does. -/
theorem Opens.before_of_refers
    {instances : List (Instance σ)} {opening other site : Site}
    {opener earlier : SuiteInput} (opens : Opens instances opening opener)
    (refers : RefersAt instances other earlier)
    (sameName : earlier.name = opener.name) (lower : other.Before site) :
    opening.Before site := by
  rcases Site.before_or_eq_or_before opening other with below | rfl | above
  · exact below.trans lower
  · exact lower
  · exact absurd above (opens.first other earlier refers sameName)

theorem wired_iff_refersAt
    (instances : List (Instance σ)) (placeholder : SuiteInput) :
    Wired instances placeholder ↔
      ∃ site, RefersAt instances site placeholder := by
  constructor
  · intro ⟨bound, member, name, found⟩
    obtain ⟨position, listed⟩ := List.mem_iff_getElem?.mp member
    exact ⟨⟨position, name⟩, bound, listed, found⟩
  · intro ⟨site, bound, listed, found⟩
    exact ⟨bound, List.mem_of_getElem? listed, site.parameter, found⟩

/-! ## The scan -/

/-- The references of the instance at a position, by name. -/
def referencesOf (position : Nat) (bound : Instance σ) :
    List (Site × SuiteInput) :=
  bound.bindings.entries.filterMap fun entry =>
    match entry.2 with
    | .input placeholder => some (⟨position, entry.1⟩, placeholder)
    | .value _ => none

/-- All references in the order in which the inputs are collected. -/
def references (instances : List (Instance σ)) : List (Site × SuiteInput) :=
  instances.zipIdx.flatMap fun entry => referencesOf entry.2 entry.1

theorem mem_referencesOf_iff
    (position : Nat) (bound : Instance σ) (site : Site)
    (placeholder : SuiteInput) :
    (site, placeholder) ∈ referencesOf position bound ↔
      site.position = position ∧
        bound.bindings.find? site.parameter = some (.input placeholder) := by
  rw [← NameTable.mem_entries_iff]
  constructor
  · intro member
    obtain ⟨⟨name, binding⟩, entry, wired⟩ := List.mem_filterMap.mp member
    cases binding with
    | value content => simp at wired
    | input other =>
        obtain ⟨rfl, rfl⟩ : (⟨position, name⟩ : Site) = site ∧
            other = placeholder := by simpa using wired
        exact ⟨rfl, entry⟩
  · rintro ⟨rfl, entry⟩
    exact List.mem_filterMap.mpr ⟨_, entry, rfl⟩

theorem mem_references_iff
    (instances : List (Instance σ)) (site : Site) (placeholder : SuiteInput) :
    (site, placeholder) ∈ references instances ↔
      RefersAt instances site placeholder := by
  simp only [references, List.mem_flatMap, Prod.exists,
    List.mk_mem_zipIdx_iff_getElem?, mem_referencesOf_iff]
  constructor
  · rintro ⟨bound, _, listed, rfl, found⟩
    exact ⟨bound, listed, found⟩
  · intro ⟨bound, listed, found⟩
    exact ⟨bound, site.position, listed, rfl, found⟩

theorem map_references (instances : List (Instance σ)) :
    (references instances).map (·.2) = instances.flatMap Instance.inputs := by
  have ofOne (position : Nat) (bound : Instance σ) :
      (referencesOf position bound).map (·.2) = bound.inputs := by
    rw [referencesOf, Instance.inputs, List.map_filterMap]
    apply List.filterMap_congr
    rintro ⟨name, binding⟩ _
    cases binding <;> rfl
  calc
    (references instances).map (·.2) =
        instances.zipIdx.flatMap fun entry => entry.1.inputs := by
      simp only [references, List.map_flatMap, ofOne]
    _ = (instances.zipIdx.map Prod.fst).flatMap Instance.inputs :=
      (List.flatMap_map ..).symm
    _ = instances.flatMap Instance.inputs := by rw [List.zipIdx_map_fst]

theorem references_ascending (instances : List (Instance σ)) :
    (references instances).Pairwise fun earlier later =>
      earlier.1.Before later.1 := by
  rw [references, List.pairwise_flatMap]
  constructor
  · rintro ⟨bound, position⟩ _
    refine List.Pairwise.filterMap _ ?_ bound.bindings.sorted
    rintro ⟨name, binding⟩ ⟨other, otherBinding⟩ below reference isReference
      later laterIsReference
    cases binding with
    | value content => cases isReference
    | input placeholder =>
        cases otherBinding with
        | value content => cases laterIsReference
        | input otherPlaceholder =>
            cases isReference
            cases laterIsReference
            exact Or.inr ⟨rfl, below⟩
  · have positions : (instances.zipIdx.map (·.2)).Pairwise (· < ·) := by
      rw [List.zipIdx_map_snd]
      exact List.pairwise_lt_range'
    apply (List.pairwise_map.mp positions).imp
    rintro ⟨bound, position⟩ ⟨other, higher⟩ below
      ⟨site, placeholder⟩ member ⟨later, otherPlaceholder⟩ otherMember
    obtain ⟨rfl, _⟩ := (mem_referencesOf_iff ..).mp member
    obtain ⟨rfl, _⟩ := (mem_referencesOf_iff ..).mp otherMember
    exact Or.inl below

/-- What stands before a reference in the scan are the references at the sites
before its own. -/
theorem mem_before_iff
    {instances : List (Instance σ)} {before after : List (Site × SuiteInput)}
    {site : Site} {placeholder : SuiteInput}
    (split : references instances = before ++ (site, placeholder) :: after)
    (other : Site) (earlier : SuiteInput) :
    (other, earlier) ∈ before ↔
      RefersAt instances other earlier ∧ other.Before site := by
  have ascending := references_ascending instances
  rw [split, List.pairwise_append] at ascending
  obtain ⟨_, fromSite, beforeSite⟩ := ascending
  rw [← mem_references_iff, split]
  constructor
  · intro member
    exact ⟨List.mem_append_left _ member,
      beforeSite _ member _ List.mem_cons_self⟩
  · intro ⟨member, lower⟩
    rcases List.mem_append.mp member with inBefore | atOrAfter
    · exact inBefore
    · rcases List.mem_cons.mp atOrAfter with same | inAfter
      · cases same
        exact absurd lower (Site.Before.irrefl site)
      · have higher := List.rel_of_pairwise_cons fromSite inAfter
        exact absurd (lower.trans higher) (Site.Before.irrefl other)

/-- Every name that is referenced has a first reference. -/
theorem exists_opens
    {instances : List (Instance σ)} {site : Site} {placeholder : SuiteInput}
    (refers : RefersAt instances site placeholder) :
    ∃ opening first, Opens instances opening first ∧
      first.name = placeholder.name := by
  have member := (mem_references_iff instances site placeholder).mpr refers
  have known : ((references instances).find? fun entry =>
      entry.2.name == placeholder.name).isSome = true :=
    List.find?_isSome.mpr ⟨_, member, beq_self_eq_true _⟩
  obtain ⟨⟨opening, first⟩, found⟩ := Option.isSome_iff_exists.mp known
  obtain ⟨sameName, before, after, split, others⟩ :=
    List.find?_eq_some_iff_append.mp found
  have named : first.name = placeholder.name := by simpa using sameName
  refine ⟨opening, first, ⟨?_, ?_⟩, named⟩
  · rw [← mem_references_iff, split]
    exact List.mem_append_right _ List.mem_cons_self
  · intro other earlier earlierRefers alsoNamed lower
    have inBefore := (mem_before_iff split other earlier).mpr
      ⟨earlierRefers, lower⟩
    simpa [alsoNamed, named] using others _ inBefore

namespace Resolution

/-! ## Collecting along the scan -/

theorem collectFrom_append (known before after : List SuiteInput) :
    collectFrom known (before ++ after) =
      (collectFrom known before).bind (collectFrom · after) := by
  induction before generalizing known with
  | nil => rfl
  | cons reference rest induction =>
      rw [List.cons_append, collectFrom, collectFrom]
      split
      · split
        · exact induction known
        · rfl
      · exact induction _

/-- A failure is told at a reference up to which all can be collected. -/
theorem collectFrom_eq_error_split
    {known references : List SuiteInput} {error : BindingError}
    (failed : collectFrom known references = .error error) :
    ∃ before clash after collected first,
      references = before ++ clash :: after ∧
        collectFrom known before = .ok collected ∧
        collected.find? (·.name == clash.name) = some first ∧
        first.type ≠ clash.type ∧
        error = .conflictingInput clash.name first.type clash.type := by
  induction references generalizing known with
  | nil => cases failed
  | cons reference rest induction =>
      rw [collectFrom] at failed
      split at failed
      · rename_i first found
        split at failed
        · rename_i sameType
          obtain ⟨before, clash, after, collected, earliest, rfl, success,
            conflict⟩ := induction failed
          refine ⟨reference :: before, clash, after, collected, earliest, rfl,
            ?_, conflict⟩
          simpa [collectFrom, found, sameType] using success
        · rename_i different
          cases failed
          exact ⟨[], reference, rest, known, first, rfl, rfl, found, different,
            rfl⟩
      · rename_i absent
        obtain ⟨before, clash, after, collected, earliest, rfl, success,
          conflict⟩ := induction failed
        refine ⟨reference :: before, clash, after, collected, earliest, rfl,
          ?_, conflict⟩
        simpa [collectFrom, absent] using success

private theorem split_of_concat
    {seen before after : List SuiteInput} {reference later : SuiteInput}
    (split : seen ++ [reference] = before ++ later :: after) :
    seen = before ∧ reference = later ∨
      ∃ rest, seen = before ++ later :: rest := by
  rcases List.eq_nil_or_concat after with rfl | ⟨rest, last, rfl⟩
  · obtain ⟨sameBefore, sameLast⟩ := List.append_inj' split rfl
    exact Or.inl ⟨sameBefore, List.head_eq_of_cons_eq sameLast⟩
  · rw [List.concat_eq_append, ← List.cons_append, ← List.append_assoc]
      at split
    exact Or.inr ⟨rest, (List.append_inj' split rfl).1⟩

/-- Behind every reference to an input stand references to the inputs collected
before it. -/
theorem collectFrom_ordered
    {references inputs : List SuiteInput}
    (collected : collectFrom [] references = .ok inputs) :
    inputs.Pairwise fun earlier later => ∀ before after,
      references = before ++ later :: after → earlier ∈ before := by
  -- from the end, so that the invariant speaks about what was scanned
  induction references using List.reverseRecOn generalizing inputs with
  | nil =>
      cases collected
      exact .nil
  | append_singleton seen reference induction =>
      rw [collectFrom_append] at collected
      cases seenCollected : collectFrom [] seen with
      | error error => simp [seenCollected, Except.bind] at collected
      | ok known =>
          have members : ∀ input, input ∈ known ↔ input ∈ seen := by
            simpa using (collectFrom_eq_ok seenCollected).1
          have kept : known.Pairwise fun earlier later => ∀ before after,
              seen ++ [reference] = before ++ later :: after →
                earlier ∈ before := by
            apply (induction seenCollected).imp_of_mem
            intro earlier later earlierKnown _ precedes before after split
            rcases split_of_concat split with ⟨rfl, _⟩ | ⟨rest, splitSeen⟩
            · exact (members earlier).mp earlierKnown
            · exact precedes before rest splitSeen
          simp only [seenCollected, Except.bind, collectFrom] at collected
          split at collected
          · split at collected
            · cases collected
              exact kept
            · cases collected
          · rename_i absent
            cases collected
            refine List.pairwise_append.mpr ⟨kept, List.pairwise_singleton _ _,
              ?_⟩
            intro earlier earlierKnown later isReference before after split
            obtain rfl : later = reference := by simpa using isReference
            rcases split_of_concat split with ⟨rfl, _⟩ | ⟨rest, rfl⟩
            · exact (members earlier).mp earlierKnown
            · have alreadyKnown : later ∈ known :=
                (members later).mpr (by simp)
              simpa using List.find?_eq_none.mp absent later alreadyKnown

theorem inReferenceOrder_of_collectInputs
    {instances : List (Instance σ)} {inputs : List SuiteInput}
    (collected : collectInputs instances = .ok inputs) :
    InReferenceOrder instances inputs where
  distinct := (collectFrom_eq_ok collected).2 List.nodup_nil
  members := by
    intro input
    rw [collectInputs_eq_ok collected, wired_iff_refersAt]
  ordered := by
    apply (collectFrom_ordered collected).imp
    intro earlier later precedes site refers
    have member := (mem_references_iff instances site later).mpr refers
    obtain ⟨before, after, split⟩ := List.append_of_mem member
    have inputsSplit : instances.flatMap Instance.inputs =
        before.map (·.2) ++ later :: after.map (·.2) := by
      rw [← map_references, split, List.map_append, List.map_cons]
    obtain ⟨⟨other, _⟩, inBefore, rfl⟩ :=
      List.mem_map.mp (precedes _ _ inputsSplit)
    exact ⟨other, (mem_before_iff split other _).mp inBefore⟩

/-- What is collected before a reference are the references before its site. -/
theorem mem_collected_iff
    {instances : List (Instance σ)} {before after : List (Site × SuiteInput)}
    {site : Site} {clash : SuiteInput} {collected : List SuiteInput}
    (split : references instances = before ++ (site, clash) :: after)
    (success : collectFrom [] (before.map (·.2)) = .ok collected)
    (input : SuiteInput) :
    input ∈ collected ↔
      ∃ other, RefersAt instances other input ∧ other.Before site := by
  simp [(collectFrom_eq_ok success).1, mem_before_iff split]

/-- A conflict is told at the first clash, with the first type of the name. -/
theorem firstClash_of_collectInputs
    {instances : List (Instance σ)} {error : BindingError}
    (failed : collectInputs instances = .error error) :
    ∃ site first clash, Clashes instances site first clash ∧
      (∀ other opening clashing, Clashes instances other opening clashing →
        ¬other.Before site) ∧
      error = .conflictingInput clash.name first.type clash.type := by
  obtain ⟨_, _, _, collected, first, inputsSplit, success, found, differs,
    shape⟩ := collectFrom_eq_error_split failed
  rw [← map_references] at inputsSplit
  obtain ⟨before, _, split, rfl, restShape⟩ :=
    List.map_eq_append_iff.mp inputsSplit
  obtain ⟨⟨site, clash⟩, after, rfl, rfl, rfl⟩ :=
    List.map_eq_cons_iff.mp restShape
  have members := mem_collected_iff split success
  have agree {left right : SuiteInput} (leftKnown : left ∈ collected)
      (rightKnown : right ∈ collected) (sameName : left.name = right.name) :
      left = right :=
    List.inj_on_of_nodup_map
      ((collectFrom_eq_ok success).2 List.nodup_nil) leftKnown rightKnown
      sameName
  have openerKnown {opening other : Site} {opener earlier : SuiteInput}
      (opens : Opens instances opening opener)
      (refers : RefersAt instances other earlier)
      (sameName : earlier.name = opener.name) (lower : other.Before site) :
      opener ∈ collected :=
    (members opener).mpr
      ⟨opening, opens.refers, opens.before_of_refers refers sameName lower⟩
  have firstKnown : first ∈ collected := List.mem_of_find?_eq_some found
  have sameName : first.name = clash.name := by
    simpa using List.find?_some found
  refine ⟨site, first, clash, ⟨?refers, ?opened, sameName, differs⟩,
    ?noEarlier, shape⟩
  case refers =>
    rw [← mem_references_iff, split]
    exact List.mem_append_right _ List.mem_cons_self
  case opened =>
    obtain ⟨place, placeRefers, lower⟩ := (members first).mp firstKnown
    obtain ⟨opening, opener, opens, alsoNamed⟩ := exists_opens placeRefers
    have known := openerKnown opens placeRefers alsoNamed.symm lower
    exact ⟨opening, agree known firstKnown alsoNamed ▸ opens⟩
  case noEarlier =>
    intro other opener clashing clashes lower
    obtain ⟨opening, opens⟩ := clashes.opened
    have known :=
      openerKnown opens clashes.refers clashes.sameName.symm lower
    have clashingKnown : clashing ∈ collected :=
      (members clashing).mpr ⟨other, clashes.refers, lower⟩
    have same := agree known clashingKnown clashes.sameName
    exact clashes.differs (congrArg SuiteInput.type same)

end Resolution

namespace Suite

open Resolution

/-- The inputs of a suite can be listed exactly when its placeholders agree on
their types by name.  They come in the order of their first references; a
failure names the first reference that disagrees with the first one of its
name. -/
theorem inputs_follow_first_references
    (name : Option String) (instances : List (Instance σ)) :
    (⟨name, instances⟩ : Suite σ).inputs = collectInputs instances ∧
      ((∃ inputs, collectInputs instances = .ok inputs) ↔
        Agreeing instances) ∧
      (∀ inputs, collectInputs instances = .ok inputs →
        InReferenceOrder instances inputs) ∧
      ∀ error, collectInputs instances = .error error →
        ∃ site first clash, Clashes instances site first clash ∧
          (∀ other opening clashing,
            Clashes instances other opening clashing → ¬other.Before site) ∧
          error = .conflictingInput clash.name first.type clash.type := by
  refine ⟨rfl, ?_, fun _ => inReferenceOrder_of_collectInputs,
    fun _ => firstClash_of_collectInputs⟩
  constructor
  · intro ⟨inputs, collected⟩
    exact agreeing_of_collectInputs collected
  · exact collectInputs_of_agreeing

/-- Two types with the same name are still two types. -/
example (metadata : Metadata) (logic : Logic σ) :
    let bound : Instance σ := ⟨metadata, logic, .empty⟩
    collectInputs
        [bound.withInput "limit" ⟨"bound", .int⟩,
          bound.withInput "limit" ⟨"bound", .object "int"⟩] =
      .error (.conflictingInput "bound" .int (.object "int")) :=
  rfl

end Suite

end Assay
