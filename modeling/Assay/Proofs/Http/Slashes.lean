import Assay.Proofs.Http.Base

/-!
# Slashes at the end of an address

Slashes at the end of an address of the web are slashes at the end of its path, unless there is
a query or a fragment, or its segments are dots that take others back.
-/

namespace Assay.Url

/-! ## Behind the host -/

/-- Behind a host there is nothing or a colon. -/
theorem splitHost_snd (inBrackets : Bool) (characters : List Char) :
    (splitHost inBrackets characters).2 <:+ characters ∧
      ((splitHost inBrackets characters).2 = [] ∨
        ∃ rest, (splitHost inBrackets characters).2 = ':' :: rest) := by
  induction characters generalizing inBrackets with
  | nil => exact ⟨List.suffix_rfl, .inl rfl⟩
  | cons character rest induction =>
      rw [splitHost]
      split
      · rename_i ends
        exact ⟨List.suffix_rfl, .inr ⟨rest, by rw [ends.1]⟩⟩
      · obtain ⟨suffix, shape⟩ :=
          induction (character == '[' || (inBrackets && character != ']'))
        exact ⟨suffix.trans (List.suffix_cons character rest), shape⟩

theorem splitNumber_snd
    {characters later : List Char} {number : Option Nat}
    (shape : characters = [] ∨ ∃ rest, characters = ':' :: rest) (absent : '\\' ∉ characters)
    (split : splitNumber characters = .ok (number, later)) : later = [] := by
  rcases shape with rfl | ⟨rest, rfl⟩
  · cases split
    rfl
  · rw [splitNumber] at split
    split at split
    · cases split
    · rename_i accepted
      cases split
      cases shown : rest.dropWhile Char.isDigit with
      | nil => rfl
      | cons first more =>
          have suffix := List.dropWhile_suffix (l := rest) Char.isDigit
          rw [shown] at suffix accepted
          have first : first = '\\' := by simpa using (not_or.mp accepted).2
          subst first
          exact absurd (List.mem_cons_of_mem ':' (suffix.mem List.mem_cons_self)) absent

theorem splitUser_snd (characters : List Char) : (splitUser characters).2 <:+ characters := by
  have suffix : (characters.reverse.takeWhile (· != '@')).reverse <:+ characters := by
    have ends := List.reverse_suffix.mpr (List.takeWhile_prefix (l := characters.reverse) (· != '@'))
    rwa [List.reverse_reverse] at ends
  rw [splitUser]
  split
  · exact suffix
  · exact suffix

/-- What is located before the first slash is nothing of the path. -/
theorem parseLocation_slashes
    {scheme user : String} {isWeb : Bool} {front slashes path : List Char} {host : Host}
    {number : Option Nat} (absent : '\\' ∉ front) (only : ∀ character ∈ slashes, character = '/')
    (located : parseLocation scheme isWeb (front ++ slashes) = .ok (user, host, number, path)) :
    path = front.dropWhile (· != '/') ++ slashes ∧ ∀ others, (∀ character ∈ others, character = '/') →
      parseLocation scheme isWeb (front ++ others) =
        .ok (user, host, number, front.dropWhile (· != '/') ++ others) := by
  have stops : ∀ slashes : List Char, (∀ character ∈ slashes, character = '/') →
      ∀ character ∈ slashes.head?, (character != '/') = false := by
    intro slashes only character head
    rw [only character (List.mem_of_mem_head? head)]
    rfl
  have taken := Text.takeWhile_append_of_head front (stops slashes only)
  have dropped := Text.dropWhile_append_of_head front (stops slashes only)
  simp only [parseLocation, taken, dropped] at located
  obtain ⟨foundHost, hosted, located⟩ := Json.bind_eq_ok located
  obtain ⟨⟨foundNumber, rest⟩, numbered, located⟩ := Json.bind_eq_ok located
  have nothing : rest = [] := by
    obtain ⟨suffix, shape⟩ :=
      splitHost_snd false (splitUser (front.takeWhile (· != '/'))).2
    refine splitNumber_snd shape (fun member => absent ?_) numbered
    exact (List.takeWhile_prefix _).mem ((splitUser_snd _).mem (suffix.mem member))
  subst nothing
  cases located
  refine ⟨rfl, ?_⟩
  intro others onlyOthers
  simp only [parseLocation, Text.takeWhile_append_of_head front (stops others onlyOthers),
    Text.dropWhile_append_of_head front (stops others onlyOthers)]
  rw [hosted, numbered]
  rfl

/-! ## Pieces of a path -/

/-- The path that is made of the pieces of a text is the text with its marks escaped. -/
theorem flatMap_encodeSegments (characters : List Char) :
    (encodeSegments (Text.pieces '/' characters)).flatMap (fun segment => '/' :: segment.toList) =
      '/' :: Text.PercentEncoding.escape pathMarks characters := by
  obtain ⟨first, rest, shape⟩ := List.exists_cons_of_ne_nil (Text.pieces_ne_nil '/' characters)
  have whole : '/' :: characters = (first :: rest).flatMap ('/' :: ·) := by
    rw [Text.joined_pieces shape]
    rfl
  have slash : '/' :: Text.PercentEncoding.escape pathMarks characters =
      Text.PercentEncoding.escape pathMarks ('/' :: characters) := rfl
  rw [slash, whole, shape, encodeSegments, List.flatMap_map, Text.PercentEncoding.escape,
    List.flatMap_assoc]
  refine List.flatMap_congr fun segment _ => ?_
  rw [escape, String.toList_ofList]
  rfl

theorem plain_pieces_append
    {characters slashes : List Char}
    (plain : ∀ segment ∈ Text.pieces '/' characters, IsPlainSegment segment)
    (only : ∀ character ∈ slashes, character = '/') :
    ∀ segment ∈ Text.pieces '/' (characters ++ slashes), IsPlainSegment segment := by
  induction slashes generalizing characters with
  | nil =>
      rw [List.append_nil]
      exact plain
  | cons slash slashes induction =>
      obtain ⟨rfl, others⟩ := List.forall_mem_cons.mp only
      have nothing : ∀ segment ∈ Text.pieces '/' [], IsPlainSegment segment :=
        List.forall_mem_singleton.mpr ⟨rfl, rfl⟩
      have empty := induction nothing others
      rw [Text.pieces_append]
      exact List.forall_mem_append.mpr ⟨plain, empty⟩

/-- Slashes behind a path are kept, and one is put where there is nothing. -/
theorem flatMap_segmentsOf_slashes
    {path slashes : List Char} (shape : path = [] ∨ ∃ rest, path = '/' :: rest)
    (plain : ∀ segment ∈ Text.pieces '/' path, IsPlainSegment segment)
    (only : ∀ character ∈ slashes, character = '/') :
    (encodeSegments (segmentsOf (withoutSlash (path ++ slashes)))).flatMap
        (fun segment => '/' :: segment.toList) =
      if path ++ slashes = [] then ['/']
      else Text.PercentEncoding.escape pathMarks path ++ slashes := by
  cases joined : path ++ slashes with
  | nil => rfl
  | cons first body =>
      have pieces := plain_pieces_append plain only
      obtain rfl : first = '/' := by
        rcases shape with rfl | ⟨rest, rfl⟩
        · rw [List.nil_append] at joined
          exact only first (joined ▸ List.mem_cons_self)
        · exact (List.cons.inj joined).1.symm
      have kept : Text.PercentEncoding.escape pathMarks slashes = slashes :=
        escape_of_isPath fun character member => only character member ▸ slash_isPathCharacter
      have split : Text.pieces '/' ('/' :: body) = [] :: Text.pieces '/' body :=
        Text.pieces_append [] body
      rw [joined, split] at pieces
      have opened : withoutSlash ('/' :: body) = body := rfl
      have escaped : '/' :: Text.PercentEncoding.escape pathMarks body =
          Text.PercentEncoding.escape pathMarks ('/' :: body) := rfl
      rw [opened, segmentsOf, resolveDots_of_plain (List.forall_mem_cons.mp pieces).2,
        List.nil_append, flatMap_encodeSegments, escaped, ← joined,
        if_neg (joined ▸ List.cons_ne_nil _ _), Text.PercentEncoding.escape, List.flatMap_append,
        ← Text.PercentEncoding.escape, ← Text.PercentEncoding.escape, kept]

/-- The pieces behind a slash are pieces of the whole. -/
theorem plain_pieces_of_suffix
    {characters path : List Char} (suffix : path <:+ characters)
    (shape : path = [] ∨ ∃ rest, path = '/' :: rest)
    (plain : ∀ segment ∈ Text.pieces '/' characters, IsPlainSegment segment) :
    ∀ segment ∈ Text.pieces '/' path, IsPlainSegment segment := by
  rcases shape with rfl | ⟨rest, rfl⟩
  · exact List.forall_mem_singleton.mpr ⟨rfl, rfl⟩
  · obtain ⟨front, rfl⟩ := suffix
    rw [Text.pieces_append] at plain
    have split : Text.pieces '/' ('/' :: rest) = [] :: Text.pieces '/' rest :=
      Text.pieces_append [] rest
    rw [split]
    exact List.forall_mem_cons.mpr ⟨⟨rfl, rfl⟩, (List.forall_mem_append.mp plain).2⟩

/-- A path that ends in no slash ends in none when its marks are escaped. -/
theorem escape_concat (marks characters : List Char) {last : Char} (different : last ≠ '/') :
    ∃ front final, Text.PercentEncoding.escape marks (characters ++ [last]) = front ++ [final] ∧
      final ≠ '/' := by
  have split : Text.PercentEncoding.escape marks (characters ++ [last]) =
      Text.PercentEncoding.escape marks characters ++
        Text.PercentEncoding.escape marks [last] := List.flatMap_append
  rw [split, Text.PercentEncoding.escape.eq_def marks [last], List.flatMap_singleton]
  split
  · obtain ⟨bytes, byte, shape⟩ := List.eq_nil_or_concat (String.utf8EncodeChar last) |>.resolve_left
      String.utf8EncodeChar_ne_nil
    have bound := byte.toNat_lt
    have digit := (Text.PercentEncoding.isPathCharacter_upperHexDigit
      (show byte.toNat % 16 < 16 by omega)).2
    have encoded : Text.PercentEncoding.encodeByte byte =
        ['%', Text.upperHexDigit (byte.toNat / 16)] ++ [Text.upperHexDigit (byte.toNat % 16)] := rfl
    rw [shape, List.concat_eq_append, List.flatMap_append, List.flatMap_singleton, encoded,
      ← List.append_assoc, ← List.append_assoc]
    exact ⟨_, _, rfl, digit⟩
  · exact ⟨_, last, rfl, different⟩

/-! ## Whole addresses -/

/-- Characters that an address keeps as they are, none of which begins a query or a fragment. -/
def isKept (character : Char) : Bool :=
  !isOuter character && isFront character && character != '\\'

theorem isKept_of_slashes
    {slashes : List Char} (only : ∀ character ∈ slashes, character = '/') :
    ∀ character ∈ slashes, isKept character = true := by
  intro character member
  rw [only character member]
  rfl

theorem cleaned_of_kept
    {characters : List Char} (kept : ∀ character ∈ characters, isKept character = true) :
    cleaned characters = characters := by
  have shown : ∀ character ∈ characters, isOuter character = false := by
    intro character member
    have keeps := kept character member
    rw [isKept, Bool.and_eq_true, Bool.and_eq_true, Bool.not_eq_true'] at keeps
    exact keeps.1.1
  have start : ∀ characters : List Char, (∀ character ∈ characters, isOuter character = false) →
      characters.dropWhile isOuter = characters := by
    intro characters shown
    cases characters with
    | nil => rfl
    | cons first rest =>
        rw [List.dropWhile_cons_of_neg (Bool.eq_false_iff.mp (shown first List.mem_cons_self))]
  have whole : characters.filter (fun character => !isDropped character) = characters := by
    rw [List.filter_eq_self]
    intro character member
    have notOuter := shown character member
    by_contra dropped
    rw [Bool.not_eq_true, Bool.not_eq_false', isDropped, Bool.or_eq_true, Bool.or_eq_true,
      beq_iff_eq, beq_iff_eq, beq_iff_eq] at dropped
    rcases dropped with (rfl | rfl) | rfl
    · exact absurd notOuter (by decide)
    · exact absurd notOuter (by decide)
    · exact absurd notOuter (by decide)
  rw [cleaned, start characters shown, start characters.reverse fun character member =>
    shown character (List.mem_reverse.mp member), List.reverse_reverse, whole]

/-- Without backslashes the slashes at the end are located behind the rest. -/
theorem located_slashes
    {front slashes : List Char} (kept : ∀ character ∈ front ++ slashes, isKept character = true)
    (only : ∀ character ∈ slashes, character = '/') (hosted : located (front ++ slashes) ≠ []) :
    located front <:+ front ∧ ∀ others, (∀ character ∈ others, character = '/') →
      located (front ++ others) = located front ++ others := by
  have unslashed : ∀ characters : List Char,
      (∀ character ∈ characters, isKept character = true) → slashed characters = characters := by
    intro characters kept
    have each : ∀ character ∈ characters, (if character = '\\' then '/' else character) =
        id character := by
      intro character member
      have keeps := kept character member
      rw [isKept, Bool.and_eq_true, bne_iff_ne] at keeps
      exact if_neg keeps.2
    rw [slashed, List.map_congr_left each, List.map_id]
  obtain ⟨keptFront, _⟩ := List.forall_mem_append.mp kept
  have hostedFront : located front ≠ [] := by
    have shown := located_append_ne_nil only hosted []
    rwa [List.append_nil] at shown
  refine ⟨?_, ?_⟩
  · rw [located, unslashed front keptFront]
    exact List.dropWhile_suffix _
  · intro others onlyOthers
    have shown : (located front).isEmpty = false := by simpa using hostedFront
    have keptOthers := List.forall_mem_append.mpr ⟨keptFront, isKept_of_slashes onlyOthers⟩
    rw [located, unslashed _ keptOthers]
    rw [located, unslashed front keptFront] at shown ⊢
    rw [List.dropWhile_append, shown]
    rfl

theorem parseFront_slashes
    {scheme : String} {front slashes : List Char} {home : Url} (web : formOf scheme = .web)
    (kept : ∀ character ∈ front ++ slashes, isKept character = true)
    (only : ∀ character ∈ slashes, character = '/')
    (read : parseFront scheme (front ++ slashes) = .ok home) :
    ∃ path, path <:+ front ∧ (path = [] ∨ ∃ rest, path = '/' :: rest) ∧
      ∀ others, (∀ character ∈ others, character = '/') →
        parseFront scheme (front ++ others) =
          .ok { home with
            segments := encodeSegments (segmentsOf (withoutSlash (path ++ others))) } := by
  obtain ⟨suffix, placing⟩ := located_slashes kept only (located_ne_nil web read)
  rw [parseFront_web web, placing slashes only] at read
  cases placed : parseLocation scheme true (located front ++ slashes) with
  | error error =>
      rw [placed] at read
      cases read
  | ok parts =>
  rw [placed] at read
  obtain ⟨user, host, number, path⟩ := parts
  have absent : '\\' ∉ located front := fun member =>
    absurd (kept '\\' (List.mem_append_left slashes (suffix.mem member))) (by decide)
  obtain ⟨-, elsewhere⟩ := parseLocation_slashes absent only placed
  refine ⟨(located front).dropWhile (· != '/'), (List.dropWhile_suffix _).trans suffix, ?_, ?_⟩
  · cases behind : (located front).dropWhile (· != '/') with
    | nil => exact .inl rfl
    | cons first rest =>
        have stops := List.head?_dropWhile_not (· != '/') (located front)
        rw [behind] at stops
        obtain rfl : first = '/' := by simpa using stops
        exact .inr ⟨rest, rfl⟩
  · intro others onlyOthers
    rw [parseFront_web web, placing others onlyOthers, elsewhere others onlyOthers]
    cases read
    rfl

/-- Slashes at the end of an address of the web are slashes at the end of its path. -/
theorem parseList_slashes
    {front slashes : List Char} {home : Url}
    (kept : ∀ character ∈ front, isKept character = true)
    (plain : ∀ segment ∈ Text.pieces '/' front, IsPlainSegment segment)
    (only : ∀ character ∈ slashes, character = '/')
    (read : parseList (front ++ slashes) = .ok home) (web : formOf home.scheme = .web) :
    ∃ path folder, path <:+ front ∧ parseList (front ++ ['/']) = .ok folder ∧
      folder.query = none ∧ folder.fragment = none ∧
        folder.path.toList = Text.PercentEncoding.escape pathMarks path ++ ['/'] ∧
          home.path.toList =
            if path ++ slashes = [] then ['/']
            else Text.PercentEncoding.escape pathMarks path ++ slashes := by
  have single : ∀ character ∈ ['/'], character = '/' := fun _ => List.mem_singleton.mp
  have keeps : ∀ {part slashes}, part <:+ front → (∀ character ∈ slashes, character = '/') →
      ∀ character ∈ part ++ slashes, isKept character = true := fun suffix only =>
    List.forall_mem_append.mpr
      ⟨fun character member => kept character (suffix.mem member), isKept_of_slashes only⟩
  obtain ⟨scheme, rest, homeFront, split, readFront, _, named, segments⟩ := parseList_eq_ok read
  rw [cleaned_of_kept (keeps List.suffix_rfl only)] at split
  obtain ⟨inner, rfl, suffix, grown⟩ :=
    splitScheme_grown (fun member => absurd (only ':' member) (by decide)) split
  have unmarked : ∀ slashes, (∀ character ∈ slashes, character = '/') →
      ∀ character ∈ inner ++ slashes, isFront character = true := by
    intro slashes only character member
    have stays := keeps suffix only character member
    rw [isKept, Bool.and_eq_true, Bool.and_eq_true] at stays
    exact stays.1.2
  rw [List.takeWhile_eq_self_iff.mpr (unmarked slashes only)] at readFront
  obtain ⟨path, behind, shape, elsewhere⟩ :=
    parseFront_slashes (named ▸ web) (keeps suffix only) only readFront
  have plainPath := plain_pieces_of_suffix (behind.trans suffix) shape plain
  have here := readFront.symm.trans (elsewhere slashes only)
  have folder := parseList_of_front
    (by rw [cleaned_of_kept (keeps List.suffix_rfl single), grown])
    (unmarked ['/'] single) (elsewhere ['/'] single)
  refine ⟨path, _, behind.trans suffix, folder, rfl, rfl, ?_, ?_⟩
  · rw [toList_path]
    refine (flatMap_segmentsOf_slashes shape plainPath single).trans ?_
    rw [if_neg (List.append_ne_nil_of_right_ne_nil _ (List.cons_ne_nil _ _))]
  · rw [toList_path, segments, congrArg Url.segments (Except.ok.inj here)]
    exact flatMap_segmentsOf_slashes shape plainPath only

end Assay.Url
