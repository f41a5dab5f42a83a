import Assay.Proofs.Http.Slashes
import Assay.Proofs.Store.Remote.Requests
import Assay.Proofs.Store.Remote.Segments

/-!
# What a request for a definition is addressed to

Behind a base that goes on, the path of a request has a segment for the project and one for the
definition, from which both can be read, unless one of them is a name of dots.  A base with a
query or a fragment swallows all paths alike.
-/

namespace Assay

namespace Remote

variable {remote other : Remote} {identity otherIdentity : Identity}

/-! ## Bases -/

theorem withoutTrailingSlashes_eq (characters : List Char) :
    withoutTrailingSlashes characters = characters.rdropWhile (· == '/') := rfl

theorem withoutTrailingSlashes_append
    (characters : List Char) {slashes : List Char} (only : ∀ character ∈ slashes, character = '/') :
    withoutTrailingSlashes (characters ++ slashes) = withoutTrailingSlashes characters := by
  rw [withoutTrailingSlashes, List.reverse_append, List.dropWhile_append_of_pos,
    withoutTrailingSlashes]
  intro character member
  rw [only character (List.mem_reverse.mp member)]
  rfl

theorem append_slashes (characters : List Char) :
    ∃ slashes, characters = withoutTrailingSlashes characters ++ slashes ∧
      ∀ character ∈ slashes, character = '/' := by
  refine ⟨characters.rtakeWhile (· == '/'), ?_, ?_⟩
  · rw [withoutTrailingSlashes_eq, List.rdropWhile_append_rtakeWhile]
  · intro character member
    have accepted := List.mem_rtakeWhile_imp member
    exact eq_of_beq accepted

theorem withoutTrailingSlashes_concat
    (characters : List Char) {last : Char} (different : last ≠ '/') :
    withoutTrailingSlashes (characters ++ [last]) = characters ++ [last] := by
  rw [withoutTrailingSlashes_eq, List.rdropWhile_concat_neg _ _ _ (by simpa using different)]

/-- Before the slashes at the end there is nothing, or another character. -/
theorem ne_slash_of_withoutTrailingSlashes
    {characters front : List Char} {last : Char}
    (shape : withoutTrailingSlashes characters = front ++ [last]) : last ≠ '/' := by
  rintro rfl
  have stays : withoutTrailingSlashes (withoutTrailingSlashes characters) =
      withoutTrailingSlashes characters := List.rdropWhile_idempotent _ _
  have shorter := List.rdropWhile_prefix (· == '/') (l := front)
  rw [shape, withoutTrailingSlashes_append front fun _ => List.mem_singleton.mp,
    withoutTrailingSlashes_eq] at stays
  have lengths := shorter.length_le
  rw [stays, List.length_append, List.length_singleton] at lengths
  omega

/-- The base with one slash in place of those at its end is an address without query and
fragment. -/
def IsFolder (base : String) (folder : Url) : Prop :=
  Url.parseList (withoutTrailingSlashes base.toList ++ ['/']) = .ok folder ∧
    folder.query = none ∧ folder.fragment = none

def HasFolder (base : String) : Prop := ∃ folder, IsFolder base folder

/-- The path of a base goes on with a slash in place of those at its end. -/
def GoesOn (base : String) : Prop :=
  ∃ home folder, Url.parse base = .ok home ∧ IsFolder base folder ∧
    folder.path.toList = withoutTrailingSlashes home.path.toList ++ ['/']

theorem GoesOn.hasFolder {base : String} (goesOn : GoesOn base) : HasFolder base := by
  obtain ⟨_, folder, _, isFolder, _⟩ := goesOn
  exact ⟨folder, isFolder⟩

/-- A base without queries, fragments, backslashes, blanks and segments that are dots. -/
structure IsPlain (base : String) : Prop where
  kept : ∀ character ∈ base.toList, Url.isKept character = true
  plain : ∀ segment ∈ Text.pieces '/' base.toList, Url.IsPlainSegment segment

theorem IsPlain.goesOn
    {base : String} {home : Url} (isPlain : IsPlain base) (read : Url.parse base = .ok home)
    (web : Url.formOf home.scheme = .web) : GoesOn base := by
  obtain ⟨slashes, shape, only⟩ := append_slashes base.toList
  have readFront := read
  rw [Url.parse, shape] at readFront
  have kept : ∀ character ∈ withoutTrailingSlashes base.toList, Url.isKept character = true :=
    fun character member => isPlain.kept character
      (shape ▸ List.mem_append_left slashes member)
  have plain : ∀ segment ∈ Text.pieces '/' (withoutTrailingSlashes base.toList),
      Url.IsPlainSegment segment := by
    have pieces := isPlain.plain
    rw [shape] at pieces
    cases slashes with
    | nil =>
        rw [List.append_nil] at pieces
        exact pieces
    | cons slash more =>
        rw [only slash List.mem_cons_self, Text.pieces_append] at pieces
        exact (List.forall_mem_append.mp pieces).1
  obtain ⟨path, folder, suffix, readFolder, noQuery, noFragment, folderPath, homePath⟩ :=
    Url.parseList_slashes kept plain only readFront web
  refine ⟨home, folder, read, ⟨readFolder, noQuery, noFragment⟩, ?_⟩
  have whole : withoutTrailingSlashes (Text.PercentEncoding.escape Url.pathMarks path) =
      Text.PercentEncoding.escape Url.pathMarks path := by
    rcases List.eq_nil_or_concat path with rfl | ⟨front, last, rfl⟩
    · rfl
    · rw [List.concat_eq_append] at suffix ⊢
      obtain ⟨before, shape⟩ := suffix
      rw [← List.append_assoc] at shape
      obtain ⟨escaped, final, written, different⟩ :=
        Url.escape_concat Url.pathMarks front (ne_slash_of_withoutTrailingSlashes shape.symm)
      rw [written, withoutTrailingSlashes_concat escaped different]
  rw [folderPath, homePath]
  split
  · rename_i empty
    rw [(List.append_eq_nil_iff.mp empty).1]
    rfl
  · rw [withoutTrailingSlashes_append _ only, whole]

/-! ## Paths behind a base -/

variable {home url otherUrl : Url} {path otherPath : String} {names otherNames : List String}

theorem parse_address (remote : Remote) (path : String) :
    Url.parse (remote.address path) =
      Url.parseList (withoutTrailingSlashes remote.base.toList ++ path.toList) := by
  rw [Url.parse, address, String.toList_ofList]

/-- Behind a base that goes on, the segments of a path follow those that are there. -/
theorem IsFolder.addresses
    {base : String} {folder : Url} (isFolder : IsFolder base folder)
    (web : Url.formOf folder.scheme = .web) :
    ∃ outer, folder.segments = outer ++ [""] ∧ ∀ (remote : Remote) (path : String) names,
      remote.base = base → LeadsTo path names →
        Url.parse (remote.address path) = .ok { folder with segments := outer ++ names } := by
  obtain ⟨parsed, noQuery, noFragment⟩ := isFolder
  obtain ⟨outer, there, grown⟩ := Url.parseList_behind parsed web noQuery noFragment
  refine ⟨Url.encodeSegments outer, ?_, ?_⟩
  · rw [there, Url.encodeSegments, List.map_append]
    rfl
  · rintro remote path names rfl leads
    obtain ⟨body, shape, isPath, resolved⟩ := leads.resolved
    rw [parse_address, shape, grown body isPath, resolved,
      encodeSegments_append _ fun name member => (leads.isSegment name member).isPath]

theorem IsFolder.scheme_eq
    {folder : Url} (isFolder : IsFolder remote.base folder) (leads : LeadsTo path names)
    (parsed : Url.parse (remote.address path) = .ok url) : url.scheme = folder.scheme := by
  obtain ⟨body, shape, isPath, _⟩ := leads.resolved
  rw [parse_address, shape] at parsed
  exact Url.scheme_eq_of_folder isPath isFolder.1 parsed

/-- Either a path is swallowed by the base, or the base goes on. -/
theorem segments_eq_or_isFolder
    (leads : LeadsTo path names) (read : Url.parse remote.base = .ok home)
    (parsed : Url.parse (remote.address path) = .ok url) (web : Url.formOf url.scheme = .web) :
    url.segments = home.segments ∨
      ∃ folder, IsFolder remote.base folder ∧ folder.scheme = url.scheme := by
  obtain ⟨slashes, base, only⟩ := append_slashes remote.base.toList
  obtain ⟨body, shape, isPath, _⟩ := leads.resolved
  rw [Url.parse, base] at read
  rw [parse_address, shape] at parsed
  rcases Url.parseList_joined only isPath read parsed web with
    same | ⟨folder, readFolder, sameScheme, noQuery, noFragment⟩
  · exact .inl same
  · exact .inr ⟨folder, ⟨readFolder, noQuery, noFragment⟩, sameScheme⟩

/-- Behind one base, paths are told apart by their segments if the base goes on, and not at all
if it does not. -/
theorem path_eq_iff
    (leads : LeadsTo path names) (otherLeads : LeadsTo otherPath otherNames)
    (read : Url.parse remote.base = .ok home) (sameBase : other.base = remote.base)
    (parsed : Url.parse (remote.address path) = .ok url) (web : Url.formOf url.scheme = .web)
    (otherParsed : Url.parse (other.address otherPath) = .ok otherUrl)
    (otherWeb : Url.formOf otherUrl.scheme = .web) :
    url.path = otherUrl.path ↔
      (HasFolder remote.base → names = otherNames) := by
  by_cases goesOn : HasFolder remote.base
  · obtain ⟨folder, isFolder⟩ := id goesOn
    obtain ⟨outer, _, addresses⟩ := isFolder.addresses (isFolder.scheme_eq leads parsed ▸ web)
    obtain rfl := Except.ok.inj (parsed.symm.trans (addresses remote path names rfl leads))
    obtain rfl := Except.ok.inj
      (otherParsed.symm.trans (addresses other otherPath otherNames sameBase otherLeads))
    constructor
    · intro same _
      have texts := congrArg String.toList same
      rw [Url.toList_path, Url.toList_path, List.flatMap_append, List.flatMap_append] at texts
      exact Url.segments_eq_of_flatMap (fun name member => (leads.isSegment name member).whole)
        (fun name member => (otherLeads.isSegment name member).whole)
        (List.append_cancel_left texts)
    · intro same
      rw [same goesOn]
  · have swallowed : url.segments = home.segments :=
      (segments_eq_or_isFolder leads read parsed web).resolve_right
        fun ⟨folder, isFolder, _⟩ => goesOn ⟨folder, isFolder⟩
    have otherSwallowed : otherUrl.segments = home.segments :=
      (segments_eq_or_isFolder otherLeads (sameBase ▸ read) otherParsed otherWeb).resolve_right
        fun ⟨folder, isFolder, _⟩ => goesOn ⟨folder, sameBase ▸ isFolder⟩
    constructor
    · exact fun _ there => absurd there goesOn
    · intro _
      rw [Url.path, Url.path, swallowed, otherSwallowed]

/-! ## The path of a definition -/

/-- The last slash of a definition's path stands before its name. -/
theorem flatMap_definition (segments : List String) (name : String) :
    (segments ++ ["tests", name]).flatMap (fun segment => '/' :: segment.toList) =
      (segments.flatMap (fun segment => '/' :: segment.toList) ++ "/tests".toList) ++
        '/' :: name.toList := by
  have names : ["tests", name].flatMap (fun segment => '/' :: segment.toList) =
      "/tests".toList ++ '/' :: name.toList := by
    rw [List.flatMap_cons, List.flatMap_cons, List.flatMap_nil, List.append_nil]
    rfl
  rw [List.flatMap_append, names, List.append_assoc]

theorem flatMap_concat (segments : List String) (name : String) :
    (segments ++ [name]).flatMap (fun segment => '/' :: segment.toList) =
      segments.flatMap (fun segment => '/' :: segment.toList) ++ '/' :: name.toList := by
  rw [List.flatMap_append, List.flatMap_singleton]

/-- The path of an address is that of the base with a segment for the project and one for the
definition behind it, from which both can be read. -/
def Names (remote : Remote) (identity : Identity) (url : Url) : Prop :=
  ∃ home project name,
    Url.parse remote.base = .ok home ∧
      url.path.toList =
        withoutTrailingSlashes home.path.toList ++ "/api/v2/project/".toList ++ project ++
          "/tests/".toList ++ name ∧
      '/' ∉ project ∧
      '/' ∉ name ∧
      Text.PercentEncoding.decodeList project = some (Text.bytes remote.project) ∧
      Text.PercentEncoding.decodeList name = some (Text.bytes identity.text)

theorem flatMap_projectSegments
    {project : String} (notSingle : project ≠ ".") (notDouble : project ≠ "..") :
    (projectSegments project).flatMap (fun segment => '/' :: segment.toList) =
      "/api/v2/project".toList ++ '/' :: Text.PercentEncoding.encodeList project.toList := by
  have segments : projectSegments project =
      ["api", "v2", "project"] ++ [Text.PercentEncoding.encode project] := by
    rw [projectSegments, if_neg notSingle, if_neg notDouble]
    rfl
  rw [segments, flatMap_concat, Text.PercentEncoding.toList_encode]
  rfl

/-- The slashes before the project and before the definition are set apart. -/
theorem append_names (front project name : List Char) :
    front ++ "/api/v2/project/".toList ++ project ++ "/tests/".toList ++ name =
      (front ++ "/api/v2/project".toList ++ '/' :: project ++ "/tests".toList) ++ '/' :: name := by
  have folder : "/api/v2/project/".toList = "/api/v2/project".toList ++ ['/'] := rfl
  have tests : "/tests/".toList = "/tests".toList ++ ['/'] := rfl
  rw [folder, tests, ← List.append_assoc front, ← List.append_assoc _ "/tests".toList,
    List.append_assoc _ ['/'] project, List.append_assoc _ ['/'] name]
  rfl

theorem text_eq_of_decoded
    {text other : String}
    (decoded : Text.PercentEncoding.decodeList (Text.PercentEncoding.encodeList text.toList) =
      some (Text.bytes other)) : text = other := by
  rw [Text.PercentEncoding.decodeList_encodeList_toList] at decoded
  exact Text.bytes_injective (Option.some.inj decoded)

/-- A segment can be read as the project only if no dots have taken its place. -/
theorem project_of_segments
    {project : String} {outer : List String} {front segment : List Char} (whole : '/' ∉ segment)
    (decoded : Text.PercentEncoding.decodeList segment = some (Text.bytes project))
    (same : (outer ++ projectSegments project).flatMap (fun name => '/' :: name.toList) =
      front ++ "/api/v2/project".toList ++ '/' :: segment) :
    project ≠ "." ∧ project ≠ ".." ∧
      outer.flatMap (fun name => '/' :: name.toList) = front := by
  have last : ∀ (segments : List String) (text : String),
      (segments ++ [Text.PercentEncoding.encode text]).flatMap (fun name => '/' :: name.toList) =
          front ++ "/api/v2/project".toList ++ '/' :: segment →
        segments.flatMap (fun name => '/' :: name.toList) = front ++ "/api/v2/project".toList ∧
          text = project := by
    intro segments text same
    rw [flatMap_concat, Text.PercentEncoding.toList_encode] at same
    obtain ⟨fronts, rfl⟩ :=
      Url.append_slash_inj (Text.PercentEncoding.slash_not_mem_encodeList _) whole same
    exact ⟨fronts, text_eq_of_decoded decoded⟩
  rw [projectSegments] at same
  split at same
  · rename_i single
    obtain ⟨-, read⟩ := last (outer ++ ["api", "v2"]) "project"
      ((congrArg _ (List.append_assoc outer ["api", "v2"] ["project"])).trans same)
    exact absurd (read.trans single) (by decide)
  · rename_i notSingle
    split at same
    · rename_i double
      obtain ⟨-, read⟩ := last (outer ++ ["api"]) "v2"
        ((congrArg _ (List.append_assoc outer ["api"] ["v2"])).trans same)
      exact absurd (read.trans double) (by decide)
    · rename_i notDouble
      obtain ⟨fronts, -⟩ := last (outer ++ ["api", "v2", "project"]) project
        ((congrArg _ (List.append_assoc outer ["api", "v2", "project"] [_])).trans same)
      rw [List.flatMap_append] at fronts
      exact ⟨notSingle, notDouble, List.append_cancel_right fronts⟩

/-- The path of the base itself has no definition behind it. -/
theorem not_names_of_segments
    (read : Url.parse remote.base = .ok home)
    (same : url.segments = home.segments) : ¬remote.Names identity url := by
  rintro ⟨found, project, name, foundRead, path, _, whole, _, decoded⟩
  obtain rfl : found = home := Except.ok.inj (foundRead.symm.trans read)
  have shared : url.path = found.path := by rw [Url.path, same, Url.path]
  obtain ⟨front, last, rfl⟩ : ∃ front last, name = front ++ [last] := by
    rcases List.eq_nil_or_concat name with rfl | ⟨front, last, shape⟩
    · have empty : "" = identity.text := text_eq_of_decoded decoded
      exact absurd empty.symm identity.text_ne_empty
    · exact ⟨front, last, by rw [shape, List.concat_eq_append]⟩
  have ends : last ≠ '/' := by
    rintro rfl
    exact whole (List.mem_append_right front List.mem_cons_self)
  rw [shared, ← List.append_assoc] at path
  have kept : withoutTrailingSlashes found.path.toList = found.path.toList := by
    have stays := withoutTrailingSlashes_concat
      (withoutTrailingSlashes found.path.toList ++ "/api/v2/project/".toList ++ project ++
        "/tests/".toList ++ front) ends
    exact path ▸ stays
  have longer := congrArg List.length path
  rw [kept] at longer
  simp only [List.length_append, List.length_singleton] at longer
  omega

theorem names_iff
    (parsed : Url.parse (remote.address (remote.definitionPath identity)) = .ok url)
    (web : Url.formOf url.scheme = .web) :
    remote.Names identity url ↔
      GoesOn remote.base ∧ remote.project ≠ "." ∧ remote.project ≠ ".." ∧ identity.text ≠ "." := by
  have leads := remote.leadsTo_definitionPath identity
  constructor
  · intro names
    obtain ⟨home, project, name, read, path, projectWhole, nameWhole, projectDecoded,
      nameDecoded⟩ := id names
    rcases segments_eq_or_isFolder leads read parsed web with same | ⟨folder, isFolder, sameScheme⟩
    · exact absurd names (not_names_of_segments read same)
    · obtain ⟨outer, there, addresses⟩ := isFolder.addresses (sameScheme ▸ web)
      obtain rfl := Except.ok.inj (parsed.symm.trans (addresses remote _ _ rfl leads))
      rw [Url.toList_path, ← List.append_assoc outer, flatMap_definition, append_names] at path
      obtain ⟨fronts, segment⟩ :=
        Url.append_slash_inj (isSegment_definitionSegment identity).whole nameWhole path
      obtain ⟨notSingle, notDouble, sameFront⟩ :=
        project_of_segments projectWhole projectDecoded (List.append_cancel_right fronts)
      refine ⟨⟨home, folder, read, isFolder, ?_⟩, notSingle, notDouble, ?_⟩
      · rw [Url.toList_path, there, flatMap_concat, sameFront]
        rfl
      · intro dot
        rw [← segment, definitionSegment, if_pos dot] at nameDecoded
        have empty : "" = identity.text := text_eq_of_decoded nameDecoded
        exact identity.text_ne_empty empty.symm
  · rintro ⟨⟨home, folder, read, isFolder, path⟩, notSingle, notDouble, notDot⟩
    obtain ⟨outer, there, addresses⟩ := isFolder.addresses (isFolder.scheme_eq leads parsed ▸ web)
    obtain rfl := Except.ok.inj (parsed.symm.trans (addresses remote _ _ rfl leads))
    rw [Url.toList_path, there, flatMap_concat] at path
    have sameFront := List.append_cancel_right path
    refine ⟨home, Text.PercentEncoding.encodeList remote.project.toList,
      Text.PercentEncoding.encodeList identity.text.toList, read, ?_,
      Text.PercentEncoding.slash_not_mem_encodeList _,
      Text.PercentEncoding.slash_not_mem_encodeList _,
      Text.PercentEncoding.decodeList_encodeList_toList _,
      Text.PercentEncoding.decodeList_encodeList_toList _⟩
    rw [Url.toList_path, ← List.append_assoc outer, flatMap_definition, append_names, ← sameFront,
      definitionSegment, if_neg notDot, Text.PercentEncoding.toList_encode, List.flatMap_append,
      flatMap_projectSegments notSingle notDouble, List.append_assoc _ "/api/v2/project".toList]

/-! ## Requests of whole stores -/

/-- A base with slashes behind it. -/
def withSlashes (remote : Remote) (count : Nat) : Remote :=
  { remote with base := remote.base ++ String.ofList (List.replicate count '/') }

theorem prepare_withSlashes
    (count : Nat) (method : Method) (path : String) (body : Option String) :
    (remote.withSlashes count).prepare method path body = remote.prepare method path body := by
  have addressed : (remote.withSlashes count).address path = remote.address path := by
    rw [address, address, withSlashes, String.toList_append, String.toList_ofList,
      withoutTrailingSlashes_append _ fun _ => List.eq_of_mem_replicate]
  have key : (remote.withSlashes count).apiKey = remote.apiKey := rfl
  have timed : (remote.withSlashes count).isTimed = remote.isTimed := rfl
  rw [prepare, addressed, key, timed, prepare]

/-- What is requested from a store that can be used is sent. -/
theorem IsUsable.prepared
    (usable : remote.IsUsable) (leads : LeadsTo path names) :
    ∃ request, remote.prepare .get path none = .ok request := by
  obtain ⟨folder, read, web, noQuery, noFragment⟩ := usable.base
  rw [parse_address] at read
  have isFolder : IsFolder remote.base folder := ⟨read, noQuery, noFragment⟩
  obtain ⟨outer, _, addresses⟩ := isFolder.addresses (Url.formOf_of_web web)
  exact ⟨_, usable.prepare .get none (addresses remote path names rfl leads) web⟩

theorem IsUsable.sends
    (usable : remote.IsUsable) (identity : Identity) : ∃ request, remote.Sends identity request := by
  obtain ⟨request, prepared⟩ := usable.prepared (remote.leadsTo_definitionPath identity)
  have sent : request ∈ (remote.load (recorded unanswered) identity ((), [])).2.2 := by
    rw [load_recorded, mem_toList_toOption]
    exact prepared
  exact ⟨request, .load sent⟩

theorem IsUsable.sendsListing
    (usable : remote.IsUsable) : ∃ request, remote.SendsListing request := by
  obtain ⟨request, prepared⟩ := usable.prepared remote.leadsTo_listingPath
  refine ⟨request, Unit, unanswered, (), ?_⟩
  rw [list_recorded, mem_toList_toOption]
  exact prepared

/-- A request names its definition exactly if the base goes on and no name of dots is in the
way, and where the base goes on no other definition has its path.  Only a project that is a dot
has a definition in the place of a listing. -/
theorem requests_name_definitions (remote : Remote) :
    (∀ identity request, remote.Sends identity request →
      (remote.Names identity request.url ↔
        GoesOn remote.base ∧ remote.project ≠ "." ∧ remote.project ≠ ".." ∧
          identity.text ≠ ".")) ∧
    (∀ home, Url.parse remote.base = .ok home →
      (Url.formOf home.scheme = .web → IsPlain remote.base → GoesOn remote.base) ∧
      ∀ other : Remote, other.base = remote.base →
        ∀ identity request, remote.Sends identity request →
          (∀ otherIdentity otherRequest, other.Sends otherIdentity otherRequest →
            (request.url.path = otherRequest.url.path ↔
              (HasFolder remote.base →
                remote.project = other.project ∧ identity = otherIdentity))) ∧
          (∀ listing, other.SendsListing listing →
            (request.url.path = listing.url.path ↔
              (HasFolder remote.base →
                remote.project = "." ∧ identity.text = "tests" ∧ other.project = "tests")))) ∧
    (∀ count method path body,
      (remote.withSlashes count).prepare method path body = remote.prepare method path body) ∧
    (remote.IsUsable → ∀ identity, ∃ request, remote.Sends identity request) := by
  refine ⟨?named, ?apart, prepare_withSlashes, IsUsable.sends⟩
  case named =>
    intro identity request sends
    exact names_iff sends.parsed.1 sends.parsed.2
  case apart =>
    intro home read
    refine ⟨fun web isPlain => isPlain.goesOn read web, ?_⟩
    intro other sameBase identity request sends
    obtain ⟨parsed, web⟩ := sends.parsed
    constructor
    · intro otherIdentity otherRequest otherSends
      obtain ⟨otherParsed, otherWeb⟩ := otherSends.parsed
      rw [path_eq_iff (remote.leadsTo_definitionPath identity)
        (other.leadsTo_definitionPath otherIdentity) read sameBase parsed web otherParsed otherWeb,
        definitionNames_eq_iff]
    · intro listing listingSends
      obtain ⟨listingParsed, listingWeb⟩ := listingSends.parsed
      rw [path_eq_iff (remote.leadsTo_definitionPath identity) other.leadsTo_listingPath read
        sameBase parsed web listingParsed listingWeb, definitionNames_eq_listingNames_iff]

/-- A store below a folder of a server, for a project whose name is no segment as it stands. -/
def shelf : Remote := ⟨"http://[::1]:9000/lab//", "key", "a/b ../ä", 10, 600⟩

def testsIdentity : Identity := ⟨"tests", by decide⟩

/-- The encoded name of another definition. -/
def encodedIdentity : Identity := ⟨"%74ests", by decide⟩

theorem isUsable_shelf : shelf.IsUsable where
  key := rfl
  timed := rfl
  base := ⟨_, rfl, .inl rfl, rfl, rfl⟩

theorem isPlain_shelf : IsPlain shelf.base where
  kept := List.all_eq_true.mp rfl
  plain := by decide +kernel

theorem requests_name_definitions_shelf :
    shelf.IsUsable ∧ IsPlain shelf.base ∧
      ∃ request otherRequest listing,
        shelf.Sends testsIdentity request ∧ shelf.Sends encodedIdentity otherRequest ∧
          shelf.SendsListing listing ∧
          request.url.path = "/lab/api/v2/project/a%2Fb%20..%2F%C3%A4/tests/tests" ∧
          shelf.Names testsIdentity request.url ∧
          request.url.path ≠ otherRequest.url.path ∧ request.url.path ≠ listing.url.path := by
  obtain ⟨names, apart, _, sends⟩ := requests_name_definitions shelf
  obtain ⟨request, sent⟩ := sends isUsable_shelf testsIdentity
  obtain ⟨otherRequest, otherSent⟩ := sends isUsable_shelf encodedIdentity
  obtain ⟨listing, listed⟩ := isUsable_shelf.sendsListing
  obtain ⟨home, read⟩ : ∃ home, Url.parse shelf.base = .ok home ∧ Url.formOf home.scheme = .web :=
    ⟨_, rfl, rfl⟩
  obtain ⟨goesOn, distinct⟩ := apart home read.1
  have base : GoesOn shelf.base := goesOn read.2 isPlain_shelf
  have folder : HasFolder shelf.base := base.hasFolder
  obtain ⟨fromOther, fromListing⟩ := distinct shelf rfl testsIdentity request sent
  have path : request.url.path = "/lab/api/v2/project/a%2Fb%20..%2F%C3%A4/tests/tests" := by
    have written : (Url.parse (shelf.address (shelf.definitionPath testsIdentity))).map Url.path =
        .ok "/lab/api/v2/project/a%2Fb%20..%2F%C3%A4/tests/tests" := rfl
    rw [sent.parsed.1] at written
    exact Except.ok.inj written
  refine ⟨isUsable_shelf, isPlain_shelf, request, otherRequest, listing, sent, otherSent, listed,
    path, ?_, ?_, ?_⟩
  · exact (names testsIdentity request sent).mpr
      ⟨base, by decide, by decide, by decide⟩
  · intro same
    have equal := ((fromOther encodedIdentity otherRequest otherSent).mp same folder).2
    exact absurd equal (by decide)
  · intro same
    have dot := ((fromListing listing listed).mp same folder).1
    exact absurd dot (by decide)

/-- A definition that is named by a dot shares the address of the folder, definitions of a
project that is named by two dots stand in no project, and one of a project that is named by a
dot can stand where another project is listed. -/
theorem dots_name_no_definition :
    (∃ (dot : Identity) (request : Request),
        dot.text = "." ∧ shelf.Sends dot request ∧ ¬shelf.Names dot request.url) ∧
      (∃ request, loopback.Sends testsIdentity request ∧
        ¬loopback.Names testsIdentity request.url) ∧
      ∃ request listing,
        { shelf with project := "." }.Sends testsIdentity request ∧
          { shelf with project := "tests" }.SendsListing listing ∧
          request.url.path = listing.url.path := by
  refine ⟨?_, ?_, ?_⟩
  · obtain ⟨request, sent⟩ := isUsable_shelf.sends ⟨".", by decide⟩
    refine ⟨_, request, rfl, sent, fun names => ?_⟩
    have notDot := ((names_iff sent.parsed.1 sent.parsed.2).mp names).2.2.2
    exact notDot rfl
  · obtain ⟨request, sent⟩ := isUsable_loopback.sends testsIdentity
    refine ⟨request, sent, fun names => ?_⟩
    have notDots := ((names_iff sent.parsed.1 sent.parsed.2).mp names).2.2.1
    exact notDots rfl
  · have usable : ∀ project, { shelf with project := project }.IsUsable := fun _ =>
      ⟨isUsable_shelf.key, isUsable_shelf.timed, isUsable_shelf.base⟩
    obtain ⟨request, sent⟩ := (usable ".").sends testsIdentity
    obtain ⟨listing, listed⟩ := (usable "tests").sendsListing
    obtain ⟨home, read⟩ : ∃ home, Url.parse shelf.base = .ok home := ⟨_, rfl⟩
    refine ⟨request, listing, sent, listed, ?_⟩
    exact (path_eq_iff (leadsTo_definitionPath _ testsIdentity) (leadsTo_listingPath _) read rfl
      sent.parsed.1 sent.parsed.2 listed.parsed.1 listed.parsed.2).mpr
        fun _ => definitionNames_eq_listingNames_iff.mpr ⟨rfl, rfl, rfl⟩

end Remote

end Assay
