import Assay.CommandLine
import Assay.Proofs.Json.Decoding
import Assay.Proofs.Text.Blank
import Assay.Proofs.Text.Identifier
import Mathlib.Data.Nat.Digits.Defs

/-!
# What settings an environment gives

An environment gives settings exactly if nothing is wrong with its variables.  Each setting
is then the text of its variable as it stands, or the default; only the timeout is read as a
number, and a blank base address counts as none.  Otherwise the error is that of the first
variable that is wrong: the base address, the key, the project, the timeout.
-/

namespace Assay.Settings

/-! ## Seconds -/

/-- The number that decimal digits stand for. -/
def decimalValue (digits : List Char) : Nat :=
  Nat.ofDigits 10 (digits.map fun digit => digit.toNat - '0'.toNat).reverse

/-- Digits, one at least, maybe with a plus sign in front, of a number of 64 bits. -/
def ReadsAs (text : String) (seconds : Nat) : Prop :=
  ∃ digits : List Char, (text.toList = digits ∨ text.toList = '+' :: digits) ∧
    digits ≠ [] ∧ (∀ digit ∈ digits, Text.Digit digit) ∧
      decimalValue digits = seconds ∧ seconds < 2 ^ 64

theorem ofDigitChars_eq_decimalValue (digits : List Char) :
    Nat.ofDigitChars 10 digits 0 = decimalValue digits := by
  induction digits with
  | nil => rfl
  | cons digit digits induction =>
      rw [Nat.ofDigitChars_cons, Nat.ofDigitChars_eq_ofDigitChars_zero, induction, Nat.mul_zero,
        Nat.zero_add, Nat.add_comm]
      simp only [decimalValue, List.map_cons, Nat.ofDigits_reverse_cons, List.length_map]

/-- The text without a plus sign in front. -/
def unsigned (text : String) : List Char :=
  match text.toList with
  | '+' :: rest => rest
  | characters => characters

theorem readSeconds_eq (text : String) :
    readSeconds text =
      if !(unsigned text).isEmpty && (unsigned text).all Char.isDigit &&
          decimalValue (unsigned text) < UInt64.size then
        some (decimalValue (unsigned text))
      else none := by
  rw [← ofDigitChars_eq_decimalValue]
  rfl

/-- A digit is no plus sign, so there is one way to tell the sign from the digits. -/
theorem unsigned_eq
    {text : String} {digits : List Char}
    (written : text.toList = digits ∨ text.toList = '+' :: digits)
    (numeric : ∀ digit ∈ digits, Text.Digit digit) : unsigned text = digits := by
  rcases written with plain | signed
  · rw [unsigned, plain]
    split
    · rename_i rest
      have plus := (Text.isDigit_iff '+').mpr (numeric '+' List.mem_cons_self)
      exact absurd plus (by decide)
    · rfl
  · rw [unsigned, signed]
    rfl

theorem readSeconds_eq_some_iff (text : String) (seconds : Nat) :
    readSeconds text = some seconds ↔ ReadsAs text seconds := by
  rw [readSeconds_eq]
  constructor
  · intro read
    split at read
    · rename_i conditions
      simp only [Bool.and_eq_true, Bool.not_eq_true', List.isEmpty_eq_false_iff, List.all_eq_true,
        decide_eq_true_eq] at conditions
      obtain ⟨⟨nonempty, numeric⟩, small⟩ := conditions
      obtain rfl := Option.some.inj read
      refine ⟨unsigned text, ?_, nonempty,
        fun digit member => (Text.isDigit_iff digit).mp (numeric digit member), rfl, small⟩
      rw [unsigned]
      split
      · rename_i signed
        exact .inr signed
      · exact .inl rfl
    · cases read
  · rintro ⟨digits, written, nonempty, numeric, rfl, small⟩
    rw [unsigned_eq written numeric, if_pos]
    simp only [Bool.and_eq_true, Bool.not_eq_true', List.isEmpty_eq_false_iff, List.all_eq_true,
      decide_eq_true_eq]
    exact ⟨⟨nonempty, fun digit member => (Text.isDigit_iff digit).mpr (numeric digit member)⟩,
      small⟩

/-! ## Variables -/

/-- The scheme of an address of the web, in lower case. -/
def HasWebScheme (base : String) : Prop :=
  ∃ rest, base = "http://" ++ rest ∨ base = "https://" ++ rest

/-- Nothing is left of the text without the blanks at its ends. -/
def IsBlank (text : String) : Prop := Text.trim text = ""

theorem isWebAddress_iff (base : String) : isWebAddress base = true ↔ HasWebScheme base := by
  have starts : ∀ scheme : String,
      scheme.toList.isPrefixOf base.toList = true ↔ ∃ rest, base = scheme ++ rest := by
    intro scheme
    rw [List.isPrefixOf_iff_prefix]
    constructor
    · rintro ⟨rest, whole⟩
      refine ⟨String.ofList rest, ?_⟩
      rw [← String.toList_inj, String.toList_append, String.toList_ofList, whole]
    · rintro ⟨rest, rfl⟩
      rw [String.toList_append]
      exact List.prefix_append _ _
  rw [isWebAddress, Bool.or_eq_true, starts, starts, HasWebScheme, exists_or]

/-- An environment whose variables are what they have to be. -/
structure IsProper (environment : Environment) : Prop where
  /-- A base address is blank, or has the scheme of the web and a key that is not blank. -/
  remote : ∀ base, environment.find? remoteBaseVariable = some base → ¬IsBlank base →
    HasWebScheme base ∧ ∃ key, environment.find? apiKeyVariable = some key ∧ ¬IsBlank key
  project : ∀ project, environment.find? projectVariable = some project → ¬IsBlank project
  timeout : ∀ text, environment.find? timeoutVariable = some text → ∃ seconds, ReadsAs text seconds

/-- Settings that are what the variables say, and the defaults where they say nothing. -/
structure Reflects (settings : Settings) (environment : Environment) : Prop where
  localFolder : settings.localFolder =
    (environment.find? localFolderVariable).getD ".check-suite"
  remoteBase : ∀ base, settings.remoteBase = some base ↔
    environment.find? remoteBaseVariable = some base ∧ ¬IsBlank base
  apiKey : settings.apiKey = (environment.find? apiKeyVariable).getD ""
  project : settings.project = (environment.find? projectVariable).getD "default"
  requestTimeout : match environment.find? timeoutVariable with
    | none => settings.requestTimeout = 10
    | some text => ReadsAs text settings.requestTimeout
  logLevel : settings.logLevel = (environment.find? logLevelVariable).getD "error"

/-! ## Violations in their order -/

inductive Violation where
  | scheme
  | key
  | project
  | timeout

/-- The place of a violation among all that can be wrong. -/
def Violation.rank : Violation → Nat
  | .scheme => 0
  | .key => 1
  | .project => 2
  | .timeout => 3

/-- What is wrong with an environment, and the error for it. -/
inductive Violates (environment : Environment) : Violation → SettingsError → Prop where
  | scheme {base : String} (set : environment.find? remoteBaseVariable = some base)
      (shown : ¬IsBlank base) (foreign : ¬HasWebScheme base) :
      Violates environment .scheme
        (.invalidValue remoteBaseVariable "Must start with http:// or https://")
  | key {base : String} (set : environment.find? remoteBaseVariable = some base)
      (shown : ¬IsBlank base)
      (missing : ∀ key, environment.find? apiKeyVariable = some key → IsBlank key) :
      Violates environment .key (.missingVariable apiKeyVariable)
  | project {project : String} (set : environment.find? projectVariable = some project)
      (blank : IsBlank project) :
      Violates environment .project (.invalidValue projectVariable "Cannot be empty")
  | timeout {text : String} (set : environment.find? timeoutVariable = some text)
      (unreadable : ¬∃ seconds, ReadsAs text seconds) :
      Violates environment .timeout
        (.invalidValue timeoutVariable ("Must be a positive number, got: " ++ text))

/-- The violation that comes before all others. -/
structure ViolatesFirst (environment : Environment) (violation : Violation)
    (error : SettingsError) : Prop where
  violated : Violates environment violation error
  least : ∀ other otherError, Violates environment other otherError → violation.rank ≤ other.rank

section

variable {environment : Environment} {settings : Settings} {violation : Violation}
  {error : SettingsError}

/-- Variables that are what they have to be leave nothing to be reported. -/
theorem IsProper.not_violates
    (proper : IsProper environment) : ¬Violates environment violation error := by
  intro violated
  cases violated with
  | scheme set shown foreign => exact foreign (proper.remote _ set shown).1
  | key set shown missing =>
      obtain ⟨_, key, keySet, keyShown⟩ := proper.remote _ set shown
      exact keyShown (missing key keySet)
  | project set blank => exact proper.project _ set blank
  | timeout set unreadable => exact unreadable (proper.timeout _ set)

theorem Violates.unique
    {other : SettingsError} (violated : Violates environment violation error)
    (again : Violates environment violation other) : error = other := by
  cases violated with
  | scheme => cases again; rfl
  | key => cases again; rfl
  | project => cases again; rfl
  | timeout set _ =>
      cases again with
      | timeout otherSet _ =>
          obtain rfl := Option.some.inj (set.symm.trans otherSet)
          rfl

theorem Violation.rank_injective
    {left right : Violation} (same : left.rank = right.rank) : left = right := by
  cases left <;> cases right <;> first | rfl | contradiction

theorem ViolatesFirst.unique
    {other : Violation} {otherError : SettingsError}
    (first : ViolatesFirst environment violation error)
    (otherFirst : ViolatesFirst environment other otherError) : error = otherError := by
  have below := first.least other otherError otherFirst.violated
  have above := otherFirst.least violation error first.violated
  obtain rfl := Violation.rank_injective (Nat.le_antisymm below above)
  exact first.violated.unique otherFirst.violated

theorem Reflects.unique
    {other : Settings} (reflects : settings.Reflects environment)
    (otherReflects : other.Reflects environment) : settings = other := by
  have bases : settings.remoteBase = other.remoteBase := by
    ext base
    exact (reflects.remoteBase base).trans (otherReflects.remoteBase base).symm
  have timeouts : settings.requestTimeout = other.requestTimeout := by
    have own := reflects.requestTimeout
    have others := otherReflects.requestTimeout
    cases set : environment.find? timeoutVariable with
    | none =>
        rw [set] at own others
        exact own.trans others.symm
    | some text =>
        rw [set] at own others
        have read := (readSeconds_eq_some_iff _ _).mpr own
        exact Option.some.inj (read.symm.trans ((readSeconds_eq_some_iff _ _).mpr others))
  cases settings
  cases other
  simp only [Settings.mk.injEq]
  exact ⟨reflects.localFolder.trans otherReflects.localFolder.symm, bases,
    reflects.apiKey.trans otherReflects.apiKey.symm,
    reflects.project.trans otherReflects.project.symm, timeouts,
    reflects.logLevel.trans otherReflects.logLevel.symm⟩

/-! ## One check after the other -/

theorem isBlankText_getD_iff (set : Option String) :
    Text.isBlankText (set.getD "") = true ↔ ∀ text, set = some text → IsBlank text := by
  cases set with
  | none => exact iff_of_true rfl (fun _ absent => nomatch absent)
  | some text =>
      rw [Option.getD_some, Text.isBlankText_iff]
      exact ⟨fun blank _ same => Option.some.inj same ▸ blank, fun all => all text rfl⟩

theorem remoteBaseIn_eq_some_iff (environment : Environment) (base : String) :
    remoteBaseIn environment = some base ↔
      environment.find? remoteBaseVariable = some base ∧ ¬IsBlank base := by
  rw [remoteBaseIn, Option.filter_eq_some_iff, IsBlank, ← Text.isBlankText_iff,
    Bool.not_eq_true', Bool.not_eq_true]

/-- The key, which has to be there only for a base address. -/
def keyIn (environment : Environment) : String :=
  (environment.find? apiKeyVariable).getD default.apiKey

theorem checkRemote_eq_ok
    (checked : checkRemote (remoteBaseIn environment) (keyIn environment) = .ok ())
    {base : String} (set : environment.find? remoteBaseVariable = some base)
    (shown : ¬IsBlank base) :
    HasWebScheme base ∧
      ∃ key, environment.find? apiKeyVariable = some key ∧ ¬IsBlank key := by
  have found := (remoteBaseIn_eq_some_iff environment base).mpr ⟨set, shown⟩
  simp only [checkRemote, found] at checked
  split at checked
  · cases checked
  · rename_i web
    split at checked
    · cases checked
    · rename_i keyShown
      refine ⟨(isWebAddress_iff base).mp (by simpa using web), ?_⟩
      by_contra missing
      push Not at missing
      exact keyShown ((isBlankText_getD_iff _).mpr missing)

theorem checkRemote_eq_error
    (failed : checkRemote (remoteBaseIn environment) (keyIn environment) = .error error) :
    ∃ violation, ViolatesFirst environment violation error := by
  cases found : remoteBaseIn environment with
  | none =>
      rw [found] at failed
      cases failed
  | some base =>
      obtain ⟨set, shown⟩ := (remoteBaseIn_eq_some_iff environment base).mp found
      simp only [checkRemote, found] at failed
      split at failed
      · rename_i foreign
        obtain rfl := Except.error.inj failed
        refine ⟨.scheme, .scheme set shown ?_, fun _ _ _ => Nat.zero_le _⟩
        rw [← isWebAddress_iff]
        simpa using foreign
      · rename_i web
        split at failed
        · rename_i blank
          obtain rfl := Except.error.inj failed
          refine ⟨.key, .key set shown ((isBlankText_getD_iff _).mp blank), ?_⟩
          intro other otherError violated
          cases violated with
          | scheme otherSet _ foreign =>
              obtain rfl := Option.some.inj (set.symm.trans otherSet)
              exact absurd ((isWebAddress_iff base).mp (by simpa using web)) foreign
          | _ => decide
        · cases failed

/-- A base address that passed leaves only what comes after it. -/
theorem Violates.project_le
    (checked : checkRemote (remoteBaseIn environment) (keyIn environment) = .ok ())
    (violated : Violates environment violation error) :
    Violation.project.rank ≤ violation.rank := by
  cases violated with
  | scheme set shown foreign => exact absurd (checkRemote_eq_ok checked set shown).1 foreign
  | key set shown missing =>
      obtain ⟨_, key, keySet, keyShown⟩ := checkRemote_eq_ok checked set shown
      exact absurd (missing key keySet) keyShown
  | project => exact Nat.le_refl _
  | timeout => decide

/-- The project, which is never absent. -/
def projectIn (environment : Environment) : String :=
  (environment.find? projectVariable).getD default.project

theorem isBlankText_projectIn_iff (environment : Environment) :
    Text.isBlankText (projectIn environment) = true ↔
      ∃ project, environment.find? projectVariable = some project ∧ IsBlank project := by
  rw [projectIn, Text.isBlankText_iff]
  cases environment.find? projectVariable with
  | none => exact iff_of_false (by decide) (fun ⟨_, absent, _⟩ => nomatch absent)
  | some project =>
      rw [Option.getD_some]
      exact ⟨fun blank => ⟨project, rfl, blank⟩, fun ⟨_, same, blank⟩ =>
        (Option.some.inj same).symm ▸ blank⟩

theorem checkProject_eq_ok_iff (environment : Environment) :
    checkProject (projectIn environment) = .ok () ↔
      ∀ project, environment.find? projectVariable = some project → ¬IsBlank project := by
  rw [checkProject]
  split
  · rename_i blank
    obtain ⟨project, set, blank⟩ := (isBlankText_projectIn_iff environment).mp blank
    exact iff_of_false nofun fun shown => shown project set blank
  · rename_i shown
    refine iff_of_true rfl fun project set blank => ?_
    exact shown ((isBlankText_projectIn_iff environment).mpr ⟨project, set, blank⟩)

theorem checkProject_eq_error
    (failed : checkProject (projectIn environment) = .error error) :
    Violates environment .project error := by
  rw [checkProject] at failed
  split at failed
  · rename_i blank
    obtain ⟨project, set, blank⟩ := (isBlankText_projectIn_iff environment).mp blank
    obtain rfl := Except.error.inj failed
    exact .project set blank
  · cases failed

theorem timeoutIn_eq_ok_iff (environment : Environment) (seconds : Nat) :
    timeoutIn environment = .ok seconds ↔
      match environment.find? timeoutVariable with
      | none => seconds = 10
      | some text => ReadsAs text seconds := by
  rw [timeoutIn]
  cases environment.find? timeoutVariable with
  | none => exact ⟨fun same => (Except.ok.inj same).symm, fun same => congrArg _ same.symm⟩
  | some text =>
      dsimp only
      rw [← readSeconds_eq_some_iff]
      cases readSeconds text with
      | none => exact iff_of_false nofun nofun
      | some read => simp only [Except.ok.injEq, Option.some.injEq]

theorem timeoutIn_eq_error
    (failed : timeoutIn environment = .error error) :
    Violates environment .timeout error := by
  rw [timeoutIn] at failed
  split at failed
  · cases failed
  · rename_i text set
    split at failed
    · cases failed
    · rename_i unread
      obtain rfl := Except.error.inj failed
      refine .timeout set ?_
      rintro ⟨seconds, reads⟩
      rw [(readSeconds_eq_some_iff text seconds).mpr reads] at unread
      contradiction

/-! ## All checks -/

theorem ofEnvironment_eq_ok
    (read : ofEnvironment environment = .ok settings) :
    IsProper environment ∧ settings.Reflects environment := by
  obtain ⟨⟨⟩, remoteChecked, read⟩ := Json.bind_eq_ok read
  obtain ⟨⟨⟩, projectChecked, read⟩ := Json.bind_eq_ok read
  obtain ⟨seconds, timed, read⟩ := Json.bind_eq_ok read
  obtain rfl := Except.ok.inj read
  have timeout := (timeoutIn_eq_ok_iff environment seconds).mp timed
  constructor
  · refine ⟨fun base => checkRemote_eq_ok remoteChecked,
      (checkProject_eq_ok_iff environment).mp projectChecked, ?_⟩
    intro text set
    rw [set] at timeout
    exact ⟨seconds, timeout⟩
  · exact ⟨rfl, remoteBaseIn_eq_some_iff environment, rfl, rfl, timeout, rfl⟩

theorem ofEnvironment_eq_error
    (failed : ofEnvironment environment = .error error) :
    ∃ violation, ViolatesFirst environment violation error := by
  rcases Json.bind_eq_error failed with remoteFailed | ⟨⟨⟩, remoteChecked, failed⟩
  · exact checkRemote_eq_error remoteFailed
  rcases Json.bind_eq_error failed with projectFailed | ⟨⟨⟩, projectChecked, failed⟩
  · exact ⟨.project, checkProject_eq_error projectFailed,
      fun _ _ violated => violated.project_le remoteChecked⟩
  rcases Json.bind_eq_error failed with timeoutFailed | ⟨seconds, timed, failed⟩
  · refine ⟨.timeout, timeoutIn_eq_error timeoutFailed, fun other otherError violated => ?_⟩
    have late := violated.project_le remoteChecked
    cases violated with
    | project set blank =>
        exact absurd blank ((checkProject_eq_ok_iff environment).mp projectChecked _ set)
    | timeout => exact Nat.le_refl _
    | scheme => exact absurd late (by decide)
    | key => exact absurd late (by decide)
  · cases failed

theorem isProper_iff_ofEnvironment (environment : Environment) :
    (∃ settings, ofEnvironment environment = .ok settings) ↔ IsProper environment := by
  constructor
  · rintro ⟨settings, read⟩
    exact (ofEnvironment_eq_ok read).1
  · intro proper
    cases read : ofEnvironment environment with
    | ok settings => exact ⟨settings, rfl⟩
    | error error =>
        obtain ⟨violation, first⟩ := ofEnvironment_eq_error read
        exact absurd first.violated proper.not_violates

theorem ofEnvironment_eq_ok_iff (environment : Environment) (settings : Settings) :
    ofEnvironment environment = .ok settings ↔
      IsProper environment ∧ settings.Reflects environment := by
  refine ⟨ofEnvironment_eq_ok, ?_⟩
  rintro ⟨proper, reflects⟩
  obtain ⟨read, succeeded⟩ := (isProper_iff_ofEnvironment environment).mpr proper
  rw [succeeded, (ofEnvironment_eq_ok succeeded).2.unique reflects]

theorem ofEnvironment_eq_error_iff (environment : Environment) (error : SettingsError) :
    ofEnvironment environment = .error error ↔
      ∃ violation, ViolatesFirst environment violation error := by
  refine ⟨ofEnvironment_eq_error, ?_⟩
  rintro ⟨violation, first⟩
  cases read : ofEnvironment environment with
  | ok settings => exact absurd first.violated (ofEnvironment_eq_ok read).1.not_violates
  | error found =>
      obtain ⟨_, foundFirst⟩ := ofEnvironment_eq_error read
      rw [foundFirst.unique first]

end

/-! ## Variables from a file -/

section

variable {given filled : Environment} {name value : String}

theorem setNew_keeps
    {otherName otherValue : String}
    (set : DotEnv.setNew given otherName otherValue = some filled)
    (found : given.find? name = some value) : filled.find? name = some value := by
  rw [DotEnv.setNew] at set
  split at set
  · exact Option.some.inj set ▸ found
  · rename_i unset
    split at set
    · contradiction
    · rw [← Option.some.inj set, NameTable.find?_insert, if_neg, found]
      rintro rfl
      exact unset (by rw [NameTable.contains, found, Option.isSome_some])

theorem applyLines_keeps
    {written : Environment} {lines : List (Option (List Char))}
    (applied : DotEnv.applyLines given written lines = some filled)
    (found : given.find? name = some value) : filled.find? name = some value := by
  induction lines generalizing given written with
  | nil => exact Option.some.inj applied ▸ found
  | cons line lines induction =>
      cases line with
      | none => exact Option.some.inj applied ▸ found
      | some line =>
          rw [DotEnv.applyLines] at applied
          split at applied
          · exact Option.some.inj applied ▸ found
          · exact induction applied found
          · obtain ⟨next, set, applied⟩ := Option.bind_eq_some_iff.mp applied
            exact induction applied (setNew_keeps set found)

/-- A file of assignments sets only variables that are not set. -/
theorem fillFrom_keeps
    {σ : Type} {files : FileSystem σ} {paths : List Path} {state later : σ}
    (read : DotEnv.fillFrom files given paths state = (some filled, later))
    (found : given.find? name = some value) : filled.find? name = some value := by
  induction paths generalizing state with
  | nil => exact Option.some.inj (Prod.mk.inj read).1 ▸ found
  | cons path paths induction =>
      rw [DotEnv.fillFrom] at read
      split at read
      · exact applyLines_keeps (Prod.mk.inj read).1 found
      · exact induction read
      · exact induction read
      · exact Option.some.inj (Prod.mk.inj read).1 ▸ found

end

/-! ## What the variables say -/

/-- An environment, also one with the variables of a file added to it, gives settings exactly
if its variables are what they have to be; the settings are what the variables say, and the
error is that of the first violation.  Settings for a server have an address of the web and a
key. -/
theorem ofEnvironment_reflects_variables (environment : Environment) :
    ((∃ settings, ofEnvironment environment = .ok settings) ↔ IsProper environment) ∧
      (∀ settings, ofEnvironment environment = .ok settings ↔
        IsProper environment ∧ settings.Reflects environment) ∧
      (∀ error, ofEnvironment environment = .error error ↔
        ∃ violation, ViolatesFirst environment violation error) ∧
      (∀ settings uptime remote, ofEnvironment environment = .ok settings →
        settings.remote? uptime = some remote → HasWebScheme remote.base ∧ ¬IsBlank remote.apiKey) ∧
      (∀ (σ : Type) (files : FileSystem σ) given paths state later,
        DotEnv.fillFrom files given paths state = (some environment, later) →
          ∀ name value, given.find? name = some value → environment.find? name = some value) := by
  refine ⟨isProper_iff_ofEnvironment environment, ofEnvironment_eq_ok_iff environment,
    ofEnvironment_eq_error_iff environment, ?_, ?_⟩
  · intro settings uptime remote read chosen
    obtain ⟨proper, reflects⟩ := ofEnvironment_eq_ok read
    obtain ⟨base, baseSet, rfl⟩ := Option.map_eq_some_iff.mp chosen
    obtain ⟨set, shown⟩ := (reflects.remoteBase base).mp baseSet
    obtain ⟨web, key, keySet, keyShown⟩ := proper.remote base set shown
    refine ⟨web, ?_⟩
    rw [reflects.apiKey, keySet]
    exact keyShown
  · intro σ files given paths state later read name value found
    exact fillFrom_keeps read found

/-- A server, its key and the greatest timeout there is, under a sign. -/
def remoteVariables : Environment :=
  ((NameTable.empty.insert remoteBaseVariable "https://checks.example/").insert
    apiKeyVariable " key").insert timeoutVariable "+0018446744073709551615"

theorem ofEnvironment_remoteVariables :
    ofEnvironment remoteVariables = .ok { default with
      remoteBase := some "https://checks.example/"
      apiKey := " key"
      requestTimeout := 2 ^ 64 - 1 } := by
  decide +kernel

theorem reflects_remoteVariables :
    IsProper remoteVariables ∧ HasWebScheme "https://checks.example/" ∧ ¬IsBlank " key" := by
  have reads := ofEnvironment_reflects_variables remoteVariables
  exact ⟨((reads.2.1 _).mp ofEnvironment_remoteVariables).1,
    reads.2.2.2.1 _ 600 ⟨_, _, _, _, _⟩ ofEnvironment_remoteVariables rfl⟩

end Assay.Settings
