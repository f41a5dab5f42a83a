import Assay.Proofs.Http.Address
import Assay.Proofs.Text.Identifier

/-!
# Paths behind a base

A path is put behind the text of a base, with one slash in place of those at its end.  Either
the base has a query or a fragment, and then the path is swallowed by it, or the base with that
slash is an address of the web itself, and the path goes on behind it.
-/

namespace Assay.Url

/-! ## Marks -/

/-- Characters in front of the fragment and the query. -/
def isFront (character : Char) : Bool := character != '#' && character != '?'

@[simp] theorem splitAtMark_fst (mark : Char) (characters : List Char) :
    (splitAtMark mark characters).1 = characters.takeWhile (· != mark) := by
  rw [splitAtMark]
  split
  · rename_i all
    exact (List.takeWhile_eq_self_iff.mpr (List.dropWhile_eq_nil_iff.mp all)).symm
  · rfl

theorem splitAtMarks_fst (characters : List Char) :
    (splitAtMark '?' (splitAtMark '#' characters).1).1 = characters.takeWhile isFront := by
  rw [splitAtMark_fst, splitAtMark_fst, List.takeWhile_takeWhile]
  congr 1
  funext character
  rw [isFront, Bool.and_comm, Bool.decide_and, Bool.decide_eq_true, Bool.decide_eq_true]

theorem isFront_of_isOuter {character : Char} (outer : isOuter character = true) :
    isFront character = true := by
  have small := of_decide_eq_true outer
  rw [isFront, Bool.and_eq_true, bne_iff_ne, bne_iff_ne]
  constructor
  · rintro rfl
    exact absurd small (by decide)
  · rintro rfl
    exact absurd small (by decide)

theorem isFront_of_isPath {body : List Char} (isPath : IsPath body) :
    ∀ character ∈ body, isFront character = true := by
  intro character member
  have stays := stays_of_isPathCharacter (isPath character member)
  rw [isFront, Bool.and_eq_true, bne_iff_ne, bne_iff_ne]
  exact ⟨stays.notFragment, stays.notQuery⟩

/-- What stands behind a mark is not in front of it. -/
theorem takeWhile_isFront_append
    {front : List Char} (marked : ¬∀ character ∈ front, isFront character = true)
    (rest : List Char) : (front ++ rest).takeWhile isFront = front.takeWhile isFront := by
  rw [List.takeWhile_append, if_neg]
  intro same
  have whole := (List.takeWhile_prefix isFront (l := front)).eq_of_length same
  exact marked (List.takeWhile_eq_self_iff.mp whole)

theorem parseList_eq_ok {characters : List Char} {url : Url}
    (read : parseList characters = .ok url) :
    ∃ scheme rest front, splitScheme (cleaned characters) = some (scheme, rest) ∧
      parseFront scheme (rest.takeWhile isFront) = .ok front ∧ front.scheme = scheme ∧
        url.scheme = scheme ∧ url.segments = front.segments := by
  rw [parseList_eq] at read
  split at read
  · cases read
  · rename_i scheme rest split
    rw [splitAtMarks_fst] at read
    cases readFront : parseFront scheme (rest.takeWhile isFront) with
    | error error =>
        rw [readFront] at read
        cases read
    | ok front =>
        rw [readFront] at read
        cases read
        have named := scheme_of_parseFront readFront
        exact ⟨scheme, rest, front, split, readFront, named, named, rfl⟩

theorem parseList_of_front
    {characters rest : List Char} {scheme : String} {front : Url}
    (split : splitScheme (cleaned characters) = some (scheme, rest))
    (plain : ∀ character ∈ rest, isFront character = true)
    (read : parseFront scheme rest = .ok front) :
    parseList characters = .ok { front with query := none, fragment := none } := by
  have unmarked : ∀ mark, isFront mark = false → mark ∉ rest := by
    intro mark isMark member
    rw [plain mark member] at isMark
    cases isMark
  rw [parseList_eq, split]
  dsimp only
  rw [splitAtMark_of_not_mem (unmarked '#' rfl), splitAtMark_of_not_mem (unmarked '?' rfl), read]
  rfl

/-! ## Ends of a base -/

theorem located_eq_nil_iff {characters : List Char} :
    located characters = [] ↔ ∀ character ∈ characters, character = '/' ∨ character = '\\' := by
  rw [located, List.dropWhile_eq_nil_iff, slashed, List.forall_mem_map]
  refine forall₂_congr fun character _ => ?_
  by_cases backslash : character = '\\'
  · simp [backslash]
  · simp [backslash]

theorem located_append_ne_nil
    {front slashes : List Char} (only : ∀ character ∈ slashes, character = '/')
    (hosted : located (front ++ slashes) ≠ []) (behind : List Char) :
    located (front ++ behind) ≠ [] := by
  intro empty
  apply hosted
  rw [located_eq_nil_iff] at empty ⊢
  exact List.forall_mem_append.mpr ⟨(List.forall_mem_append.mp empty).1,
    fun character member => .inl (only character member)⟩

/-- At the end of a base slashes are kept, and other characters are dropped only if no slash
follows them. -/
theorem cleaned_slashes
    (front : List Char) {slashes : List Char} (only : ∀ character ∈ slashes, character = '/') :
    ∃ common behind,
      (front.dropWhile isOuter).filter (fun character => !isDropped character) =
          common ++ behind ∧
        cleaned (front ++ slashes) = common ++ slashes ∧
          ∀ character ∈ behind, isOuter character = true := by
  cases slashes with
  | cons slash more =>
      obtain ⟨rfl, others⟩ := List.forall_mem_cons.mp only
      have isPath : IsPath more := fun character member =>
        others character member ▸ slash_isPathCharacter
      exact ⟨_, [], (List.append_nil _).symm, cleaned_grown front isPath, List.forall_mem_nil _⟩
  | nil =>
      let outer := (front.dropWhile isOuter).reverse.takeWhile isOuter
      have whole : front.dropWhile isOuter =
          ((front.dropWhile isOuter).reverse.dropWhile isOuter).reverse ++ outer.reverse := by
        rw [← List.reverse_append, List.takeWhile_append_dropWhile, List.reverse_reverse]
      refine ⟨cleaned front, outer.reverse.filter fun character => !isDropped character, ?_, ?_, ?_⟩
      · rw [cleaned, ← List.filter_append, ← whole]
      · rw [List.append_nil, List.append_nil]
      · intro character member
        exact List.mem_takeWhile_imp (List.mem_reverse.mp (List.mem_filter.mp member).1)

/-- A path behind a base is swallowed, or goes on behind an address. -/
theorem parseList_joined
    {front slashes body : List Char} {home url : Url}
    (only : ∀ character ∈ slashes, character = '/') (isPath : IsPath body)
    (read : parseList (front ++ slashes) = .ok home)
    (joined : parseList (front ++ '/' :: body) = .ok url) (web : formOf url.scheme = .web) :
    url.segments = home.segments ∨
      ∃ folder, parseList (front ++ ['/']) = .ok folder ∧ folder.scheme = url.scheme ∧
        folder.query = none ∧ folder.fragment = none := by
  obtain ⟨common, behind, shape, cleanBase, outer⟩ := cleaned_slashes front only
  have cleanJoined : ∀ body, IsPath body →
      cleaned (front ++ '/' :: body) = common ++ (behind ++ '/' :: body) := by
    intro body isPath
    rw [cleaned_grown front isPath, shape, List.append_assoc]
  obtain ⟨scheme, rest, homeFront, split, readFront, _, _, segments⟩ := parseList_eq_ok read
  rw [cleanBase] at split
  obtain ⟨inner, rfl, _, grown⟩ :=
    splitScheme_grown (fun member => absurd (only ':' member) (by decide)) split
  have splitJoined : ∀ body, IsPath body →
      splitScheme (cleaned (front ++ '/' :: body)) =
        some (scheme, inner ++ (behind ++ '/' :: body)) := by
    intro body isPath
    rw [cleanJoined body isPath, grown]
  obtain ⟨joinedScheme, joinedRest, joinedFront, joinedSplit, readJoined, _, joinedNamed,
    joinedSegments⟩ := parseList_eq_ok joined
  rw [splitJoined body isPath] at joinedSplit
  obtain ⟨rfl, rfl⟩ := Prod.mk.inj (Option.some.inj joinedSplit)
  by_cases plain : ∀ character ∈ inner, isFront character = true
  · right
    have pathPlain : ∀ body, IsPath body →
        ∀ character ∈ inner ++ (behind ++ '/' :: body), isFront character = true := by
      intro body isPath
      exact List.forall_mem_append.mpr ⟨plain, List.forall_mem_append.mpr
        ⟨fun character member => isFront_of_isOuter (outer character member),
          List.forall_mem_cons.mpr ⟨rfl, isFront_of_isPath isPath⟩⟩⟩
    have slashesPlain : ∀ character ∈ inner ++ slashes, isFront character = true := by
      refine List.forall_mem_append.mpr ⟨plain, fun character member => ?_⟩
      rw [only character member]
      rfl
    have webScheme : formOf scheme = .web := joinedNamed ▸ web
    rw [List.takeWhile_eq_self_iff.mpr slashesPlain] at readFront
    rw [List.takeWhile_eq_self_iff.mpr (pathPlain body isPath), ← List.append_assoc] at readJoined
    have hosted := located_append_ne_nil only (located_ne_nil webScheme readFront) behind
    obtain ⟨_, _, grown⟩ := parseFront_grown webScheme isPath hosted readJoined
    have nothing : IsPath [] := List.forall_mem_nil _
    have readFolder := grown [] nothing
    rw [List.append_assoc] at readFolder
    have read := parseList_of_front (splitJoined [] nothing) (pathPlain [] nothing) readFolder
    exact ⟨_, read, by rw [joinedNamed, ← scheme_of_parseFront readJoined], rfl, rfl⟩
  · left
    rw [takeWhile_isFront_append plain] at readFront readJoined
    obtain rfl := Except.ok.inj (readFront.symm.trans readJoined)
    rw [segments, joinedSegments]

/-- What stands behind the slash has no part in the scheme. -/
theorem scheme_eq_of_folder
    {front body : List Char} {folder url : Url} (isPath : IsPath body)
    (read : parseList (front ++ ['/']) = .ok folder)
    (joined : parseList (front ++ '/' :: body) = .ok url) : url.scheme = folder.scheme := by
  obtain ⟨scheme, rest, _, split, _, _, named, _⟩ := parseList_eq_ok read
  rw [cleaned_grown front (List.forall_mem_nil _)] at split
  obtain ⟨inner, rfl, _, grown⟩ := splitScheme_grown (by decide) split
  obtain ⟨otherScheme, otherRest, _, otherSplit, _, _, otherNamed, _⟩ := parseList_eq_ok joined
  rw [cleaned_grown front isPath, grown] at otherSplit
  obtain ⟨rfl, -⟩ := Prod.mk.inj (Option.some.inj otherSplit)
  rw [named, otherNamed]

/-! ## Segments behind a base -/

/-- The segments before the last ones are resolved one after the other. -/
theorem resolveDots_append
    {later : List (List Char)} (more : later ≠ []) (resolved segments : List (List Char)) :
    resolveDots resolved (segments ++ later) =
      resolveDots (segments.foldl resolveFolder resolved) later := by
  induction segments generalizing resolved with
  | nil => rfl
  | cons segment segments induction =>
      have rest : segments ++ later ≠ [] := List.append_ne_nil_of_right_ne_nil segments more
      rw [List.cons_append, resolveDots.eq_3 _ _ _ rest, List.foldl_cons, resolveFolder]
      split
      · exact induction _
      · split
        · exact induction _
        · exact induction _

/-- A segment that stays where it is. -/
def IsPlainSegment (segment : List Char) : Prop :=
  isSingleDot segment = false ∧ isDoubleDot segment = false

instance (segment : List Char) : Decidable (IsPlainSegment segment) :=
  inferInstanceAs (Decidable (_ ∧ _))

theorem foldl_resolveFolder
    {segments : List (List Char)} (plain : ∀ segment ∈ segments, IsPlainSegment segment)
    (resolved : List (List Char)) : segments.foldl resolveFolder resolved = resolved ++ segments := by
  induction segments generalizing resolved with
  | nil => rw [List.foldl_nil, List.append_nil]
  | cons segment segments induction =>
      obtain ⟨⟨notSingle, notDouble⟩, others⟩ := List.forall_mem_cons.mp plain
      rw [List.foldl_cons, induction others, resolveFolder, notDouble, notSingle,
        if_neg Bool.false_ne_true, if_neg Bool.false_ne_true, List.append_assoc,
        List.singleton_append]

theorem resolveDots_of_plain
    {segments : List (List Char)} (plain : ∀ segment ∈ segments, IsPlainSegment segment)
    (resolved : List (List Char)) : resolveDots resolved segments = resolved ++ segments := by
  rcases List.eq_nil_or_concat segments with rfl | ⟨front, last, rfl⟩
  · rw [resolveDots, List.append_nil]
  · rw [List.concat_eq_append] at plain ⊢
    obtain ⟨plainFront, plainLast⟩ := List.forall_mem_append.mp plain
    obtain ⟨notSingle, notDouble⟩ := List.forall_mem_singleton.mp plainLast
    rw [resolveDots_concat notSingle notDouble, foldl_resolveFolder plainFront, List.append_assoc]

/-- Behind an address of the web the segments of a path are resolved from those that are there,
which the last slash ends. -/
theorem parseList_behind
    {front : List Char} {folder : Url} (read : parseList (front ++ ['/']) = .ok folder)
    (web : formOf folder.scheme = .web) (noQuery : folder.query = none)
    (noFragment : folder.fragment = none) :
    ∃ outer, folder.segments = encodeSegments (outer ++ [[]]) ∧ ∀ body, IsPath body →
      parseList (front ++ '/' :: body) =
        .ok { folder with
          segments := encodeSegments (resolveDots outer (Text.pieces '/' body)) } := by
  obtain ⟨inner, endsInSlash, grown⟩ := parseList_grown read web noQuery noFragment
  obtain ⟨folders, pieces⟩ := endsInSlash.pieces_append
  have segments : ∀ body, segmentsOf (inner ++ body) =
      resolveDots (folders.foldl resolveFolder []) (Text.pieces '/' body) := by
    intro body
    rw [segmentsOf, pieces, resolveDots_append (Text.pieces_ne_nil _ _)]
  refine ⟨folders.foldl resolveFolder [], ?_, ?_⟩
  · have here := grown [] (List.forall_mem_nil _)
    rw [read, segments] at here
    exact congrArg Url.segments (Except.ok.inj here)
  · intro body isPath
    rw [grown body isPath, segments]

/-! ## Texts of paths -/

theorem toList_path (url : Url) :
    url.path.toList = url.segments.flatMap fun segment => '/' :: segment.toList := by
  rw [path, String.toList_join, List.flatMap_map]
  exact List.flatMap_congr fun segment _ => String.toList_append

/-- Segments without slashes are told apart by the text of their path. -/
theorem segments_eq_of_flatMap
    {segments others : List String} (whole : ∀ segment ∈ segments, '/' ∉ segment.toList)
    (otherWhole : ∀ segment ∈ others, '/' ∉ segment.toList)
    (same : segments.flatMap (fun segment => '/' :: segment.toList) =
      others.flatMap (fun segment => '/' :: segment.toList)) : segments = others := by
  have pieces := congrArg (Text.pieces '/') same
  have split : ∀ segments : List String, (∀ segment ∈ segments, '/' ∉ segment.toList) →
      Text.pieces '/' (segments.flatMap fun segment => '/' :: segment.toList) =
        [] :: segments.map String.toList := by
    intro segments whole
    have joined : Text.pieces '/' ([] ++ (segments.map String.toList).flatMap ('/' :: ·)) = _ :=
      Text.pieces_joined List.not_mem_nil (List.forall_mem_map.mpr whole)
    rw [List.flatMap_map] at joined
    exact joined
  rw [split segments whole, split others otherWhole] at pieces
  exact (List.map_inj_right fun _ _ => String.toList_inj.mp).mp (List.cons.inj pieces).2

/-- What stands behind the last slash. -/
theorem append_slash_inj
    {front otherFront last otherLast : List Char} (whole : '/' ∉ last) (otherWhole : '/' ∉ otherLast)
    (same : front ++ '/' :: last = otherFront ++ '/' :: otherLast) :
    front = otherFront ∧ last = otherLast := by
  have pieces := congrArg (Text.pieces '/') same
  rw [Text.pieces_append, Text.pieces_append, Text.pieces_of_not_mem whole,
    Text.pieces_of_not_mem otherWhole] at pieces
  obtain ⟨fronts, lasts⟩ := List.append_inj' pieces rfl
  obtain rfl := List.singleton_inj.mp lasts
  exact ⟨List.append_cancel_right same, rfl⟩

end Assay.Url
