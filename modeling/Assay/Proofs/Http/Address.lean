import Assay.Http.Url
import Assay.Proofs.Identity
import Assay.Proofs.Json.Decoding
import Assay.Proofs.Text.ByteOrder

/-!
# Addresses that go on

An address of the web that ends in a slash goes on with any path.  What was read of the
address stays as it is, and the segments of the path come after those that are there.
-/

namespace Assay

namespace Url

/-! ## Characters of a path -/

/-- Characters that stand for themselves in a path, the sign of an encoded byte and the
slash. -/
def isPathCharacter (character : Char) : Bool :=
  Text.PercentEncoding.isUnreserved character || character == '%' || character == '/'

/-- Characters that neither end a path nor are changed in it. -/
structure Stays (character : Char) : Prop where
  notOuter : isOuter character = false
  notDropped : isDropped character = false
  notFragment : character ≠ '#'
  notQuery : character ≠ '?'
  notBackslash : character ≠ '\\'
  notEscaped : Text.PercentEncoding.isEscaped pathMarks character = false

theorem toNat_lt_of_isAlphanum
    {character : Char} (alphanumeric : character.isAlphanum = true) : character.toNat < 128 := by
  have parts : (character.isUpper || character.isLower || character.isDigit) = true := alphanumeric
  simp only [Bool.or_eq_true] at parts
  obtain ⟨last, small, bound⟩ : ∃ last : UInt32, last.toNat < 128 ∧ character.val ≤ last := by
    rcases parts with (upper | lower) | digit
    · exact ⟨'Z'.val, by decide, (of_decide_eq_true upper).2⟩
    · exact ⟨'z'.val, by decide, of_decide_eq_true (Bool.and_eq_true_iff.mp lower).2⟩
    · exact ⟨'9'.val, by decide, of_decide_eq_true (Bool.and_eq_true_iff.mp digit).2⟩
  exact Nat.lt_of_le_of_lt (UInt32.le_iff_toNat_le.mp bound) small

theorem toNat_lt_of_isPathCharacter
    {character : Char} (inPath : isPathCharacter character = true) : character.toNat < 128 := by
  simp only [isPathCharacter, Text.PercentEncoding.isUnreserved, Bool.or_eq_true,
    beq_iff_eq] at inPath
  rcases inPath with (((((alphanumeric | rfl) | rfl) | rfl) | rfl) | rfl) | rfl
  · exact toNat_lt_of_isAlphanum alphanumeric
  all_goals decide

theorem stays_of_isPathCharacter
    {character : Char} (inPath : isPathCharacter character = true) : Stays character := by
  have each : ∀ code : Fin 128, isPathCharacter (.ofNat code) = true →
      isOuter (.ofNat code) = false ∧ isDropped (.ofNat code) = false ∧
        Char.ofNat code ≠ '#' ∧ Char.ofNat code ≠ '?' ∧ Char.ofNat code ≠ '\\' ∧
          Text.PercentEncoding.isEscaped pathMarks (.ofNat code) = false := by
    decide
  have small := toNat_lt_of_isPathCharacter inPath
  have same : Char.ofNat character.toNat = character := Char.ofNat_toNat character
  obtain ⟨notOuter, notDropped, notFragment, notQuery, notBackslash, notEscaped⟩ :=
    each ⟨character.toNat, small⟩ (by rw [same]; exact inPath)
  simp only [same] at notOuter notDropped notFragment notQuery notBackslash notEscaped
  exact ⟨notOuter, notDropped, notFragment, notQuery, notBackslash, notEscaped⟩

/-- What an address goes on with behind a slash. -/
def IsPath (body : List Char) : Prop := ∀ character ∈ body, isPathCharacter character = true

theorem slash_isPathCharacter : isPathCharacter '/' = true := rfl

variable {body : List Char}

theorem escape_of_isPath (isPath : IsPath body) :
    Text.PercentEncoding.escape pathMarks body = body := by
  induction body with
  | nil => rfl
  | cons character rest induction =>
      obtain ⟨first, later⟩ := List.forall_mem_cons.mp isPath
      have kept := (stays_of_isPathCharacter first).notEscaped
      rw [Text.PercentEncoding.escape, List.flatMap_cons, kept, if_neg Bool.false_ne_true,
        ← Text.PercentEncoding.escape, induction later, List.singleton_append]

/-! ## From the start of the address to its path -/

/-- The address without the characters that are dropped at its ends and everywhere. -/
def cleaned (characters : List Char) : List Char :=
  ((characters.dropWhile isOuter).reverse.dropWhile isOuter).reverse.filter
    fun character => !isDropped character

theorem cleaned_grown (front : List Char) (isPath : IsPath body) :
    cleaned (front ++ '/' :: body) =
      (front.dropWhile isOuter).filter (fun character => !isDropped character) ++ '/' :: body := by
  have path : IsPath ('/' :: body) := List.forall_mem_cons.mpr ⟨slash_isPathCharacter, isPath⟩
  have stays : ∀ character ∈ '/' :: body, Stays character := fun character member =>
    stays_of_isPathCharacter (path character member)
  have start : (front ++ '/' :: body).dropWhile isOuter =
      front.dropWhile isOuter ++ '/' :: body :=
    Text.dropWhile_append_of_head front (by simp [isOuter])
  have ending : (('/' :: body).reverse ++ (front.dropWhile isOuter).reverse).dropWhile isOuter =
      ('/' :: body).reverse ++ (front.dropWhile isOuter).reverse := by
    obtain ⟨last, earlier, shape⟩ : ∃ last earlier, ('/' :: body).reverse = last :: earlier :=
      List.exists_cons_of_ne_nil (by simp)
    have member : last ∈ '/' :: body := List.mem_reverse.mp (shape ▸ List.mem_cons_self)
    rw [shape, List.cons_append, List.dropWhile_cons_of_neg]
    simp [(stays last member).notOuter]
  have kept : ('/' :: body).filter (fun character => !isDropped character) = '/' :: body := by
    rw [List.filter_eq_self]
    intro character member
    rw [(stays character member).notDropped]
    rfl
  rw [cleaned, start, List.reverse_append, ending, List.reverse_append, List.reverse_reverse,
    List.reverse_reverse, List.filter_append, kept]

/-- A scheme begins with a letter and ends in a colon. -/
theorem splitScheme_eq_some_iff {characters rest : List Char} {scheme : String} :
    splitScheme characters = some (scheme, rest) ↔
      ∃ first more, characters = first :: more ++ ':' :: rest ∧ first.isAlpha = true ∧
        (∀ character ∈ first :: more, isSchemePart character = true) ∧
          scheme = String.ofList ((first :: more).map Char.toLower) := by
  constructor
  · intro split
    rw [splitScheme.eq_def] at split
    split at split
    · rename_i first rest
      split at split
      · rename_i letter
        split at split
        · rename_i behind colon
          obtain ⟨rfl, rfl⟩ := Prod.mk.inj (Option.some.inj split)
          have startsWith : isSchemePart first = true := by
            simp only [isSchemePart, Char.isAlphanum, letter, Bool.true_or]
          have taken : (first :: rest).takeWhile isSchemePart =
              first :: rest.takeWhile isSchemePart := List.takeWhile_cons_of_pos startsWith
          refine ⟨first, rest.takeWhile isSchemePart, ?_, letter, ?_, by rw [← taken]⟩
          · rw [← taken, ← colon, List.takeWhile_append_dropWhile]
          · intro character member
            rw [← taken] at member
            exact (List.mem_takeWhile_imp member)
        · cases split
      · cases split
    · cases split
  · rintro ⟨first, more, rfl, letter, parts, rfl⟩
    have stops : isSchemePart ':' = false := by decide
    have taken : (first :: more ++ ':' :: rest).takeWhile isSchemePart = first :: more := by
      rw [Text.takeWhile_append_of_head _ (by simp [stops])]
      exact List.takeWhile_eq_self_iff.mpr parts
    have dropped : (first :: more ++ ':' :: rest).dropWhile isSchemePart = ':' :: rest := by
      rw [Text.dropWhile_append_of_head _ (by simp [stops]), List.dropWhile_eq_nil_iff.mpr parts]
      rfl
    rw [List.cons_append] at taken dropped ⊢
    rw [splitScheme]
    simp only [if_pos letter, taken, dropped]

/-- What stands behind the colon has no part in the scheme. -/
theorem splitScheme_grown
    {front known rest : List Char} {scheme : String} (absent : ':' ∉ known)
    (split : splitScheme (front ++ known) = some (scheme, rest)) :
    ∃ inner, rest = inner ++ known ∧ inner <:+ front ∧ ∀ body,
      splitScheme (front ++ body) = some (scheme, inner ++ body) := by
  obtain ⟨first, more, whole, letter, parts, named⟩ := splitScheme_eq_some_iff.mp split
  obtain ⟨inner, shape, rfl⟩ : ∃ inner, front = first :: more ++ ':' :: inner ∧
      rest = inner ++ known := by
    rcases List.append_eq_append_iff.mp whole with
      ⟨between, _, ending⟩ | ⟨between, shape, ending⟩
    · rw [ending] at absent
      exact absurd (List.mem_append_right between List.mem_cons_self) absent
    · cases between with
      | nil =>
          rw [List.nil_append] at ending
          rw [← ending] at absent
          exact absurd List.mem_cons_self absent
      | cons mark inner =>
          obtain ⟨rfl, rfl⟩ := List.cons.inj ending
          exact ⟨inner, shape, rfl⟩
  refine ⟨inner, rfl, ?_, ?_⟩
  · rw [shape]
    exact (List.suffix_cons ':' inner).trans (List.suffix_append _ _)
  · intro body
    refine splitScheme_eq_some_iff.mpr ⟨first, more, ?_, letter, parts, named⟩
    rw [shape, List.append_assoc]
    rfl

theorem splitAtMark_of_not_mem
    {mark : Char} {characters : List Char} (absent : mark ∉ characters) :
    splitAtMark mark characters = (characters, none) := by
  have all : characters.dropWhile (· != mark) = [] := by
    rw [List.dropWhile_eq_nil_iff]
    intro character member
    simp only [bne_iff_ne]
    rintro rfl
    exact absent member
  rw [splitAtMark, all]

theorem not_mem_of_splitAtMark
    {mark : Char} {characters : List Char} (unmarked : (splitAtMark mark characters).2 = none) :
    mark ∉ characters := by
  intro present
  have stops : characters.dropWhile (· != mark) ≠ [] := by
    rw [ne_eq, List.dropWhile_eq_nil_iff]
    intro all
    simpa using all mark present
  rw [splitAtMark] at unmarked
  split at unmarked
  · contradiction
  · cases unmarked

/-! ## The host and what stands before the path -/

theorem parseLocation_grown
    {scheme user : String} {isWeb : Bool} {front known path : List Char} {host : Host}
    {number : Option Nat}
    (located : parseLocation scheme isWeb (front ++ '/' :: known) =
      .ok (user, host, number, path)) :
    ∃ inner, path = inner ++ '/' :: known ∧ ∀ body,
      parseLocation scheme isWeb (front ++ '/' :: body) =
        .ok (user, host, number, inner ++ '/' :: body) := by
  have taken : ∀ body, (front ++ '/' :: body).takeWhile (· != '/') =
      front.takeWhile (· != '/') := fun body =>
    Text.takeWhile_append_of_head front (by simp)
  have dropped : ∀ body, (front ++ '/' :: body).dropWhile (· != '/') =
      front.dropWhile (· != '/') ++ '/' :: body := fun body =>
    Text.dropWhile_append_of_head front (by simp)
  simp only [parseLocation, taken, dropped] at located ⊢
  obtain ⟨foundHost, hosted, located⟩ := Json.bind_eq_ok located
  obtain ⟨⟨foundNumber, rest⟩, numbered, located⟩ := Json.bind_eq_ok located
  cases located
  refine ⟨rest ++ front.dropWhile (· != '/'), by rw [List.append_assoc], ?_⟩
  intro body
  rw [hosted, numbered, List.append_assoc]
  rfl

theorem parseLocation_nil (scheme : String) (isWeb : Bool) :
    parseLocation scheme isWeb [] = .error .noHost := rfl

theorem slashed_of_isPath (isPath : IsPath body) : slashed body = body := by
  have each : ∀ character ∈ body, (if character = '\\' then '/' else character) = id character :=
    fun character member => if_neg (stays_of_isPathCharacter (isPath character member)).notBackslash
  rw [slashed, List.map_congr_left each, List.map_id]

/-- Nothing, or characters that end in a slash. -/
def EndsInSlash (characters : List Char) : Prop :=
  characters = [] ∨ ∃ outer, characters = outer ++ ['/']

theorem EndsInSlash.pieces_append {inner : List Char} (folder : EndsInSlash inner) :
    ∃ folders, ∀ body, Text.pieces '/' (inner ++ body) = folders ++ Text.pieces '/' body := by
  rcases folder with rfl | ⟨outer, rfl⟩
  · exact ⟨[], fun _ => rfl⟩
  · refine ⟨Text.pieces '/' outer, fun body => ?_⟩
    rw [List.append_assoc, List.singleton_append, Text.pieces_append]

theorem withoutSlash_grown (front : List Char) :
    ∃ inner, EndsInSlash inner ∧ ∀ body, withoutSlash (front ++ '/' :: body) = inner ++ body := by
  cases front with
  | nil => exact ⟨[], .inl rfl, fun _ => rfl⟩
  | cons first rest =>
      by_cases slash : first = '/'
      · subst slash
        exact ⟨rest ++ ['/'], .inr ⟨_, rfl⟩, fun body => by simp [withoutSlash]⟩
      · exact ⟨first :: rest ++ ['/'], .inr ⟨_, rfl⟩, fun body => by simp [withoutSlash, slash]⟩

theorem scheme_of_parseFront
    {scheme : String} {characters : List Char} {home : Url}
    (read : parseFront scheme characters = .ok home) : home.scheme = scheme := by
  rw [parseFront] at read
  split at read
  · obtain ⟨⟨user, host, number, path⟩, _, finished⟩ := Json.bind_eq_ok read
    cases finished
    rfl
  · obtain ⟨_, _, behind⟩ := Json.bind_eq_ok read
    obtain ⟨⟨host, segments⟩, _, finished⟩ := Json.bind_eq_ok behind
    cases finished
    rfl
  · obtain ⟨_, _, behind⟩ := Json.bind_eq_ok read
    obtain ⟨⟨user, host, number, path⟩, _, finished⟩ := Json.bind_eq_ok behind
    cases finished
    rfl

theorem formOf_of_web {scheme : String} (web : scheme = "http" ∨ scheme = "https") :
    formOf scheme = .web := by
  rcases web with rfl | rfl
  · rfl
  · rfl

/-- The part of an address of the web behind its scheme, without the slashes at its start. -/
def located (characters : List Char) : List Char := (slashed characters).dropWhile (· == '/')

theorem located_grown (front : List Char) (isPath : IsPath body) :
    located (front ++ '/' :: body) =
      if (located front).isEmpty then body.dropWhile (· == '/')
      else located front ++ '/' :: body := by
  have kept := slashed_of_isPath (List.forall_mem_cons.mpr ⟨slash_isPathCharacter, isPath⟩)
  rw [located, slashed, List.map_append, ← slashed, ← slashed, kept, List.dropWhile_append]
  rfl

theorem parseFront_web {scheme : String} (web : formOf scheme = .web) (characters : List Char) :
    parseFront scheme characters =
      (parseLocation scheme true (located characters)).map fun (user, host, number, path) =>
        ⟨scheme, user, host, number, encodeSegments (segmentsOf (withoutSlash path)), none,
          none⟩ := by
  rw [parseFront, web]
  dsimp only
  rw [← located]
  cases parseLocation scheme true (located characters) <;> rfl

/-- An address of the web has more than slashes behind its scheme. -/
theorem located_ne_nil
    {scheme : String} {characters : List Char} {home : Url} (web : formOf scheme = .web)
    (read : parseFront scheme characters = .ok home) : located characters ≠ [] := by
  intro empty
  rw [parseFront_web web, empty, parseLocation_nil] at read
  cases read

theorem located_ne_nil_of_concat {front : List Char} (shown : located (front ++ ['/']) ≠ []) :
    located front ≠ [] := by
  intro empty
  rw [located_grown front (List.forall_mem_nil _), empty, List.isEmpty_nil, if_pos rfl] at shown
  exact shown rfl

/-- The part of an address of the web behind its scheme goes on with any path, if it goes on
with one. -/
theorem parseFront_grown
    {scheme : String} {front known : List Char} {home : Url} (web : formOf scheme = .web)
    (isPath : IsPath known) (hosted : located front ≠ [])
    (read : parseFront scheme (front ++ '/' :: known) = .ok home) :
    ∃ inner, EndsInSlash inner ∧ ∀ body, IsPath body →
      parseFront scheme (front ++ '/' :: body) =
        .ok { home with segments := encodeSegments (segmentsOf (inner ++ body)) } := by
  have empty : (located front).isEmpty = false := by simpa using hosted
  have placing : ∀ body, IsPath body →
      located (front ++ '/' :: body) = located front ++ '/' :: body := by
    intro body isPath
    rw [located_grown front isPath, empty, if_neg Bool.false_ne_true]
  simp only [parseFront_web web] at read ⊢
  rw [placing known isPath] at read
  cases placed : parseLocation scheme true (located front ++ '/' :: known) with
  | error error =>
      rw [placed] at read
      cases read
  | ok parts =>
  rw [placed] at read
  obtain ⟨user, host, number, path⟩ := parts
  cases read
  obtain ⟨outer, rfl, grown⟩ := parseLocation_grown placed
  obtain ⟨inner, folder, opened⟩ := withoutSlash_grown outer
  refine ⟨inner, folder, ?_⟩
  intro body isPath
  rw [placing body isPath, grown body, ← opened body]
  rfl

/-! ## Whole addresses -/

theorem parseList_eq (characters : List Char) :
    parseList characters =
      match splitScheme (cleaned characters) with
      | none => .error .noScheme
      | some (scheme, rest) =>
          (parseFront scheme (splitAtMark '?' (splitAtMark '#' rest).1).1).map fun front =>
            { front with
              query := (splitAtMark '?' (splitAtMark '#' rest).1).2.map
                (escape (queryMarks (formOf scheme != .other)))
              fragment := (splitAtMark '#' rest).2.map (escape fragmentMarks) } := by
  rw [parseList, ← cleaned]
  cases splitScheme (cleaned characters) with
  | none => rfl
  | some found =>
      obtain ⟨scheme, rest⟩ := found
      dsimp only
      cases parseFront scheme (splitAtMark '?' (splitAtMark '#' rest).1).1 <;> rfl

/-- A mark that is not in front of a path is not in it. -/
theorem splitAtMark_grown
    {mark : Char} {front : List Char} (unmarked : (splitAtMark mark (front ++ ['/'])).2 = none)
    (foreign : ∀ character ∈ body, character ≠ mark) :
    splitAtMark mark (front ++ '/' :: body) = (front ++ '/' :: body, none) := by
  have absent := not_mem_of_splitAtMark unmarked
  apply splitAtMark_of_not_mem
  simp only [List.mem_append, List.mem_cons, List.not_mem_nil, or_false, not_or] at absent ⊢
  exact ⟨absent.1, absent.2, fun inside => foreign mark inside rfl⟩

/-- Where neither a fragment nor a query begins before the slash, none begins in what follows
it. -/
theorem marks_grown
    {behind body : List Char}
    (unmarked : (splitAtMark '#' (behind ++ ['/'])).2 = none)
    (unasked : (splitAtMark '?' (behind ++ ['/'])).2 = none)
    (isPath : IsPath body) :
    splitAtMark '#' (behind ++ '/' :: body) = (behind ++ '/' :: body, none) ∧
      splitAtMark '?' (behind ++ '/' :: body) = (behind ++ '/' :: body, none) := by
  have stays : ∀ character ∈ body, Stays character := fun character member =>
    stays_of_isPathCharacter (isPath character member)
  constructor
  · exact splitAtMark_grown unmarked fun character member => (stays character member).notFragment
  · exact splitAtMark_grown unasked fun character member => (stays character member).notQuery

/-- An address of the web that ends in a slash goes on with a path. -/
theorem parseList_grown
    {front : List Char} {home : Url}
    (read : parseList (front ++ ['/']) = .ok home)
    (web : formOf home.scheme = .web)
    (noQuery : home.query = none)
    (noFragment : home.fragment = none) :
    ∃ inner, EndsInSlash inner ∧ ∀ body, IsPath body →
      parseList (front ++ '/' :: body) =
        .ok { home with segments := encodeSegments (segmentsOf (inner ++ body)) } := by
  rw [parseList_eq, cleaned_grown front (List.forall_mem_nil _)] at read
  cases split : splitScheme
      ((front.dropWhile isOuter).filter (fun character => !isDropped character) ++ ['/']) with
  | none =>
      rw [split] at read
      contradiction
  | some found =>
      obtain ⟨scheme, rest⟩ := found
      obtain ⟨behind, rfl, _, scanned⟩ := splitScheme_grown (by decide) split
      simp only [split] at read
      cases parsed : parseFront scheme
          (splitAtMark '?' (splitAtMark '#' (behind ++ ['/'])).1).1 with
      | error error =>
          rw [parsed] at read
          contradiction
      | ok located =>
          rw [parsed] at read
          cases read
          have unmarked : (splitAtMark '#' (behind ++ ['/'])).2 = none :=
            Option.map_eq_none_iff.mp noFragment
          have noFragmentYet : splitAtMark '#' (behind ++ ['/']) = (behind ++ ['/'], none) :=
            splitAtMark_grown unmarked (List.forall_mem_nil _)
          rw [noFragmentYet] at parsed noQuery
          have unasked : (splitAtMark '?' (behind ++ ['/'])).2 = none :=
            Option.map_eq_none_iff.mp noQuery
          obtain ⟨_, noQueryYet⟩ := marks_grown unmarked unasked (List.forall_mem_nil _)
          rw [noQueryYet] at parsed
          have same : located.scheme = scheme := scheme_of_parseFront parsed
          have hosted := located_ne_nil_of_concat (located_ne_nil (same ▸ web) parsed)
          obtain ⟨inner, folder, grown⟩ :=
            parseFront_grown (same ▸ web) (List.forall_mem_nil _) hosted parsed
          refine ⟨inner, folder, ?_⟩
          intro body isPath
          obtain ⟨noFragmentLater, noQueryLater⟩ := marks_grown unmarked unasked isPath
          rw [parseList_eq, cleaned_grown _ isPath, scanned]
          simp only [noFragmentYet, noQueryYet, noFragmentLater, noQueryLater, grown body isPath]
          rfl

/-! ## The last segment -/

/-- What a segment makes of the segments before it, if it is not the last one. -/
def resolveFolder (resolved : List (List Char)) (segment : List Char) : List (List Char) :=
  if isDoubleDot segment then takeBack resolved
  else if isSingleDot segment then resolved
  else resolved ++ [segment]

/-- A last segment that is no dots is kept. -/
theorem resolveDots_concat
    {last : List Char} (notSingle : isSingleDot last = false) (notDouble : isDoubleDot last = false)
    (resolved segments : List (List Char)) :
    resolveDots resolved (segments ++ [last]) =
      segments.foldl resolveFolder resolved ++ [last] := by
  induction segments generalizing resolved with
  | nil => simp [resolveDots, notSingle, notDouble]
  | cons segment segments induction =>
      have more : segments ++ [last] ≠ [] := by simp
      rw [List.cons_append, resolveDots.eq_3 _ _ _ more, List.foldl_cons, resolveFolder]
      split
      · exact induction _
      · split
        · exact induction _
        · exact induction _

theorem segmentsOf_concat
    {name : List Char} (noSlash : '/' ∉ name) (notSingle : isSingleDot name = false)
    (notDouble : isDoubleDot name = false) (folders : List Char) :
    segmentsOf (folders ++ '/' :: name) =
      (Text.pieces '/' folders).foldl resolveFolder [] ++ [name] := by
  rw [segmentsOf, Text.pieces_append, Text.pieces_of_not_mem noSlash,
    resolveDots_concat notSingle notDouble]

theorem path_concat (url : Url) (outer : List String) (name : String) :
    { url with segments := outer ++ [name] }.path =
      String.join (outer.map ("/" ++ ·)) ++ "/" ++ name := by
  rw [path, List.map_append, List.map_singleton, String.join_append, String.append_assoc]
  rfl

end Url

/-! ## Encoded names -/

namespace Text.PercentEncoding

theorem isPathCharacter_upperHexDigit {digit : Nat} (small : digit < 16) :
    Url.isPathCharacter (upperHexDigit digit) = true ∧ upperHexDigit digit ≠ '/' := by
  have each : ∀ digit : Fin 16, Url.isPathCharacter (upperHexDigit digit) = true ∧
      upperHexDigit digit ≠ '/' := by decide
  exact each ⟨digit, small⟩

/-- An encoded text is made of path characters other than the slash. -/
theorem mem_encodeList
    {characters : List Char} {character : Char} (member : character ∈ encodeList characters) :
    Url.isPathCharacter character = true ∧ character ≠ '/' := by
  rw [encodeList, List.mem_flatMap] at member
  obtain ⟨original, _, member⟩ := member
  rw [encodeCharacter] at member
  split at member
  · rename_i plain
    rw [List.mem_singleton.mp member]
    refine ⟨by rw [Url.isPathCharacter, plain]; rfl, ?_⟩
    rintro rfl
    exact absurd plain (by decide)
  · rw [List.mem_flatMap] at member
    obtain ⟨byte, _, member⟩ := member
    have bound := byte.toNat_lt
    simp only [encodeByte, List.mem_cons, List.not_mem_nil, or_false] at member
    rcases member with rfl | rfl | rfl
    · exact ⟨rfl, by decide⟩
    · exact isPathCharacter_upperHexDigit (by omega)
    · exact isPathCharacter_upperHexDigit (by omega)

@[simp] theorem toList_encode (text : String) : (encode text).toList = encodeList text.toList :=
  String.toList_ofList

theorem isPath_encodeList (characters : List Char) : Url.IsPath (encodeList characters) :=
  fun _ member => (mem_encodeList member).1

@[simp] theorem slash_not_mem_encodeList (characters : List Char) : '/' ∉ encodeList characters :=
  fun member => (mem_encodeList member).2 rfl

@[simp] theorem decodeList_encodeList_toList (text : String) :
    decodeList (encodeList text.toList) = some (bytes text) := by
  rw [decodeList_encodeList, bytes_eq_flatMap]

/-- Texts are told apart by what they are encoded as. -/
theorem encode_injective : Function.Injective encode := by
  intro left right same
  have decoded := congrArg (fun encoded : String => decodeList encoded.toList) same
  simp only [toList_encode, decodeList_encodeList_toList, Option.some.injEq] at decoded
  exact bytes_injective decoded

/-- A segment that stands for dots is decoded as so many dots. -/
theorem decodeList_of_plainDots
    {segment : List Char} {count : Nat} (dots : Url.plainDots segment = List.replicate count '.') :
    decodeList segment = some (List.replicate count 0x2E) := by
  induction segment using Url.plainDots.induct generalizing count with
  | case1 rest induction | case2 rest induction =>
      rw [Url.plainDots] at dots
      cases count with
      | zero => contradiction
      | succ count =>
          rw [List.replicate_succ] at dots ⊢
          have later := induction (List.cons.inj dots).2
          simp only [decodeList, later]
          rfl
  | case3 character rest notLower notUpper induction =>
      rw [Url.plainDots] at dots
      · cases count with
        | zero => contradiction
        | succ count =>
            rw [List.replicate_succ] at dots ⊢
            obtain ⟨rfl, others⟩ := List.cons.inj dots
            rw [decodeList_unreserved_cons rfl, induction others]
            rfl
      · exact notLower
      · exact notUpper
  | case4 =>
      cases count with
      | zero => rfl
      | succ count => contradiction

/-- The texts that are encoded as dots are the dots themselves. -/
theorem notDots_encodeList
    {text : String} (notSingle : text ≠ ".") (notDouble : text ≠ "..") :
    Url.isSingleDot (encodeList text.toList) = false ∧
      Url.isDoubleDot (encodeList text.toList) = false := by
  have dotted : ∀ count, Url.plainDots (encodeList text.toList) = List.replicate count '.' →
      bytes text = List.replicate count 0x2E := by
    intro count dots
    have decoded := decodeList_of_plainDots dots
    rw [decodeList_encodeList_toList] at decoded
    exact Option.some.inj decoded
  constructor
  · rw [Url.isSingleDot, beq_eq_false_iff_ne]
    exact fun dots => notSingle (bytes_injective (dotted 1 dots))
  · rw [Url.isDoubleDot, beq_eq_false_iff_ne]
    exact fun dots => notDouble (bytes_injective (dotted 2 dots))

end Text.PercentEncoding

end Assay
