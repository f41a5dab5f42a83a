import Assay.Proofs.Http.Base
import Assay.Proofs.Store.Remote

/-!
# Segments of projects and of definitions

The name of a project and the name of a definition are encoded, so that each is one segment of a
path.  Names that are dots are encoded as they stand, and a path takes dots as steps: a project
of dots and a definition of one dot have no segment of their own.
-/

namespace Assay

namespace Remote

variable {identity otherIdentity : Identity}

/-! ## Where dots lead -/

/-- The segments of a project behind a base, of which dots take some back. -/
def projectSegments (project : String) : List String :=
  if project = "." then ["api", "v2", "project"]
  else if project = ".." then ["api", "v2"]
  else ["api", "v2", "project", Text.PercentEncoding.encode project]

/-- The segment of a definition, of which a dot leaves nothing. -/
def definitionSegment (identity : Identity) : String :=
  if identity.text = "." then "" else Text.PercentEncoding.encode identity.text

theorem toList_listingPath (remote : Remote) :
    remote.listingPath.toList = '/' :: remote.folderPath := by
  have joined : remote.listingPath =
      "/api/v2/project/" ++ Text.PercentEncoding.encode remote.project ++ "/tests" := rfl
  rw [joined, String.toList_append, String.toList_append, Text.PercentEncoding.toList_encode]
  rfl

theorem pieces_between
    (front : List Char) {name : List Char} (last : List Char) (whole : '/' ∉ name) :
    Text.pieces '/' (front ++ ['/'] ++ name ++ '/' :: last) =
      Text.pieces '/' front ++ [name] ++ Text.pieces '/' last := by
  rw [Text.pieces_append, List.append_assoc front, List.singleton_append, Text.pieces_append,
    Text.pieces_of_not_mem whole]

theorem pieces_folderPath (remote : Remote) :
    Text.pieces '/' remote.folderPath =
      ["api".toList, "v2".toList, "project".toList] ++
        [Text.PercentEncoding.encodeList remote.project.toList] ++ ["tests".toList] :=
  pieces_between "api/v2/project".toList "tests".toList
    (Text.PercentEncoding.slash_not_mem_encodeList _)

/-- Dots in the place of a project are a step along the path or back. -/
theorem resolve_project (project : String) (outer : List (List Char)) :
    (["api".toList, "v2".toList, "project".toList] ++
        [Text.PercentEncoding.encodeList project.toList]).foldl Url.resolveFolder outer =
      outer ++ (projectSegments project).map String.toList := by
  have known : ∀ segment ∈ ["api".toList, "v2".toList, "project".toList],
      Url.IsPlainSegment segment := by decide
  rw [List.foldl_append, Url.foldl_resolveFolder known, projectSegments]
  split
  · rename_i single
    subst single
    rfl
  · rename_i notSingle
    split
    · rename_i double
      subst double
      have last : (outer ++ ["api".toList, "v2".toList, "project".toList]).getLast? =
          some "project".toList := by
        rw [List.getLast?_append]
        rfl
      have dots : Text.PercentEncoding.encodeList "..".toList = ['.', '.'] := rfl
      have double : Url.isDoubleDot ['.', '.'] = true := rfl
      rw [List.foldl_cons, List.foldl_nil, dots, Url.resolveFolder, if_pos double, Url.takeBack,
        last, List.dropLast_append_of_ne_nil (List.cons_ne_nil _ _)]
      rfl
    · rename_i notDouble
      have plain := Text.PercentEncoding.notDots_encodeList notSingle notDouble
      rw [Url.foldl_resolveFolder (List.forall_mem_singleton.mpr plain), List.append_assoc]
      simp

/-- A dot in the place of a definition leaves nothing behind the slash. -/
theorem resolve_definition (identity : Identity) (outer : List (List Char)) :
    Url.resolveDots outer
        ["tests".toList, Text.PercentEncoding.encodeList identity.text.toList] =
      outer ++ ["tests", definitionSegment identity].map String.toList := by
  have tests : Url.IsPlainSegment "tests".toList := by decide
  rw [definitionSegment]
  split
  · rename_i single
    have dots : Text.PercentEncoding.encodeList ".".toList = ['.'] := rfl
    have singleDot : Url.isSingleDot ['.'] = true := rfl
    have first := Url.resolveDots_append (List.cons_ne_nil ['.'] []) outer ["tests".toList]
    rw [Url.foldl_resolveFolder (List.forall_mem_singleton.mpr tests)] at first
    rw [single, dots]
    refine first.trans ?_
    rw [Url.resolveDots, if_neg (by decide), if_pos singleDot, List.append_assoc]
    rfl
  · rename_i notSingle
    have plain := Text.PercentEncoding.notDots_encodeList notSingle identity.text_ne_outer
    rw [Url.resolveDots_of_plain (List.forall_mem_cons.mpr
      ⟨tests, List.forall_mem_singleton.mpr plain⟩)]
    simp

theorem resolve_listing (outer : List (List Char)) :
    Url.resolveDots outer ["tests".toList] = outer ++ ["tests"].map String.toList := rfl

theorem encodeSegments_append
    (outer : List (List Char)) {names : List String}
    (isPath : ∀ name ∈ names, Url.IsPath name.toList) :
    Url.encodeSegments (outer ++ names.map String.toList) = Url.encodeSegments outer ++ names := by
  rw [Url.encodeSegments, List.map_append, List.map_map]
  congr 1
  refine (List.map_congr_left fun name member => ?_).trans (List.map_id names)
  rw [Function.comp_apply, Url.escape, Url.escape_of_isPath (isPath name member),
    String.ofList_toList]
  rfl

/-- A name that is one segment of a path. -/
structure IsSegment (name : String) : Prop where
  isPath : Url.IsPath name.toList
  whole : '/' ∉ name.toList

theorem isSegment_encode (text : String) : IsSegment (Text.PercentEncoding.encode text) where
  isPath := by
    simpa using Text.PercentEncoding.isPath_encodeList text.toList
  whole := by
    simp

theorem isSegment_of_all
    {name : String} (letters : name.toList.all Char.isAlphanum = true) : IsSegment name where
  isPath := by
    intro character member
    have letter := List.all_eq_true.mp letters character member
    simp only [Url.isPathCharacter, Text.PercentEncoding.isUnreserved, letter, Bool.true_or]
  whole := fun member => absurd (List.all_eq_true.mp letters '/' member) (by decide)

theorem isSegment_projectSegments (project : String) :
    ∀ name ∈ projectSegments project, IsSegment name := by
  have known : ∀ name ∈ ["api", "v2", "project"], IsSegment name :=
    List.forall_mem_cons.mpr ⟨isSegment_of_all rfl, List.forall_mem_cons.mpr
      ⟨isSegment_of_all rfl, List.forall_mem_singleton.mpr (isSegment_of_all rfl)⟩⟩
  rw [projectSegments]
  split
  · exact known
  · split
    · exact fun name member => known name (List.mem_append_left ["project"] member)
    · intro name member
      rcases List.mem_append.mp (show name ∈ ["api", "v2", "project"] ++ [_] from member) with
        front | last
      · exact known name front
      · rw [List.mem_singleton.mp last]
        exact isSegment_encode project

theorem isSegment_tests : IsSegment "tests" := isSegment_of_all rfl

theorem isSegment_definitionSegment (identity : Identity) :
    IsSegment (definitionSegment identity) := by
  rw [definitionSegment]
  split
  · exact isSegment_of_all rfl
  · exact isSegment_encode identity.text

/-- Behind any folder the path stands for the segments. -/
structure LeadsTo (path : String) (names : List String) : Prop where
  resolved : ∃ body, path.toList = '/' :: body ∧ Url.IsPath body ∧ ∀ outer,
    Url.resolveDots outer (Text.pieces '/' body) = outer ++ names.map String.toList
  isSegment : ∀ name ∈ names, IsSegment name

theorem leadsTo_definitionPath (remote : Remote) (identity : Identity) :
    LeadsTo (remote.definitionPath identity)
      (projectSegments remote.project ++ ["tests", definitionSegment identity]) where
  resolved := by
    refine ⟨_, remote.toList_definitionPath identity, remote.isPath_definitionPath identity, ?_⟩
    intro outer
    rw [Text.pieces_append, pieces_folderPath,
      Text.pieces_of_not_mem (Text.PercentEncoding.slash_not_mem_encodeList _),
      List.append_assoc _ ["tests".toList], List.singleton_append,
      Url.resolveDots_append (List.cons_ne_nil _ _), resolve_project, resolve_definition,
      List.append_assoc, ← List.map_append]
  isSegment := List.forall_mem_append.mpr ⟨isSegment_projectSegments remote.project,
    List.forall_mem_cons.mpr ⟨isSegment_tests,
      List.forall_mem_singleton.mpr (isSegment_definitionSegment identity)⟩⟩

theorem leadsTo_listingPath (remote : Remote) :
    LeadsTo remote.listingPath (projectSegments remote.project ++ ["tests"]) where
  resolved := by
    refine ⟨_, remote.toList_listingPath, remote.isPath_folderPath, ?_⟩
    intro outer
    rw [pieces_folderPath, Url.resolveDots_append (List.cons_ne_nil _ _), resolve_project,
      resolve_listing, List.append_assoc, ← List.map_append]
  isSegment := List.forall_mem_append.mpr ⟨isSegment_projectSegments remote.project,
    List.forall_mem_singleton.mpr isSegment_tests⟩

/-! ## Definitions and listings apart -/

theorem projectSegments_injective : Function.Injective projectSegments := by
  intro left right same
  rw [projectSegments, projectSegments] at same
  split at same
  · split at same
    · simp_all
    · split at same
      · simp at same
      · simp at same
  · split at same
    · split at same
      · simp at same
      · split at same
        · simp_all
        · simp at same
    · split at same
      · simp at same
      · split at same
        · simp at same
        · simpa [Text.PercentEncoding.encode_injective.eq_iff] using same

theorem encode_ne_empty (identity : Identity) :
    Text.PercentEncoding.encode identity.text ≠ "" := fun empty =>
  identity.text_ne_empty
    (Text.PercentEncoding.encode_injective (empty.trans (rfl : "" = Text.PercentEncoding.encode "")))

theorem definitionSegment_injective : Function.Injective definitionSegment := by
  intro left right same
  rw [definitionSegment, definitionSegment] at same
  split at same
  · rename_i leftDot
    split at same
    · rename_i rightDot
      exact Identity.text_injective (leftDot.trans rightDot.symm)
    · exact absurd same.symm (encode_ne_empty right)
  · split at same
    · exact absurd same (encode_ne_empty left)
    · exact Identity.text_injective (Text.PercentEncoding.encode_injective same)

/-- Only a project that is a dot leaves the place of a project to what stands behind it. -/
theorem projectSegments_eq_concat_iff {project other : String} :
    projectSegments other = projectSegments project ++ ["tests"] ↔
      project = "." ∧ other = "tests" := by
  have tests : "tests" = Text.PercentEncoding.encode "tests" := rfl
  constructor
  · intro same
    rw [projectSegments, projectSegments] at same
    split at same
    · split at same
      · simp at same
      · split at same
        · simp at same
        · simp at same
    · split at same
      · split at same
        · simp at same
        · split at same
          · simp at same
          · simp at same
      · split at same
        · rename_i dot
          have read : Text.PercentEncoding.encode other = "tests" := by simpa using same
          exact ⟨dot, Text.PercentEncoding.encode_injective (read.trans tests)⟩
        · split at same
          · simp at same
          · simp at same
  · rintro ⟨rfl, rfl⟩
    rfl

theorem definitionSegment_eq_tests_iff :
    definitionSegment identity = "tests" ↔ identity.text = "tests" := by
  have tests : "tests" = Text.PercentEncoding.encode "tests" := rfl
  rw [definitionSegment]
  split
  · rename_i dot
    rw [dot]
    decide
  · rw [tests, Text.PercentEncoding.encode_injective.eq_iff]
    rfl

theorem definitionNames_eq_iff {project otherProject : String} :
    projectSegments project ++ ["tests", definitionSegment identity] =
        projectSegments otherProject ++ ["tests", definitionSegment otherIdentity] ↔
      project = otherProject ∧ identity = otherIdentity := by
  constructor
  · intro same
    obtain ⟨projects, lasts⟩ := List.append_inj' same rfl
    have segments : definitionSegment identity = definitionSegment otherIdentity :=
      List.singleton_inj.mp (List.cons.inj lasts).2
    exact ⟨projectSegments_injective projects, definitionSegment_injective segments⟩
  · rintro ⟨rfl, rfl⟩
    rfl

theorem definitionNames_eq_listingNames_iff {project otherProject : String} :
    projectSegments project ++ ["tests", definitionSegment identity] =
        projectSegments otherProject ++ ["tests"] ↔
      project = "." ∧ identity.text = "tests" ∧ otherProject = "tests" := by
  have split : projectSegments project ++ ["tests", definitionSegment identity] =
      (projectSegments project ++ ["tests"]) ++ [definitionSegment identity] := by
    rw [List.append_assoc]
    rfl
  rw [split]
  constructor
  · intro same
    obtain ⟨fronts, lasts⟩ := List.append_inj' same rfl
    obtain ⟨dot, tests⟩ := projectSegments_eq_concat_iff.mp fronts.symm
    exact ⟨dot, definitionSegment_eq_tests_iff.mp (List.singleton_inj.mp lasts), tests⟩
  · rintro ⟨dot, definition, tests⟩
    rw [definitionSegment_eq_tests_iff.mpr definition,
      projectSegments_eq_concat_iff.mpr ⟨dot, tests⟩]

end Remote

end Assay
