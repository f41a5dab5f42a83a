import Assay.Proofs.Files.Volume.Obstacles

/-!
# The targets of paths

Where a path leads is decided by its names alone: a name that is idle stays, two
dots go back, and any other name goes on.  A volume only decides whether the path
leads there at all.
-/

namespace Assay

namespace Path

/-- Where a name leads from a place. -/
def step (place : Location) (name : String) : Location :=
  if isIdleName name then place
  else if name = ".." then place.dropLast
  else place ++ [name]

/-- Where a path leads from a working folder. -/
def target (path : Path) (working : Location) : Location :=
  path.names.foldl step (if path.fromRoot then [] else working)

@[simp] theorem target_enter (path : Path) (name : String) (working : Location) :
    (path.enter name).target working = step (path.target working) name := by
  rw [target, enter, List.foldl_append]
  rfl

theorem step_idle {name : String} (idle : isIdleName name = true) (place : Location) :
    step place name = place := by
  rw [step, if_pos idle]

theorem step_named
    {name : String} (notIdle : isIdleName name = false) (notOuter : name ≠ "..")
    (place : Location) : step place name = place ++ [name] := by
  rw [step, notIdle, if_neg Bool.false_ne_true, if_neg notOuter]

end Path

namespace Volume

variable {volume : Volume} {path : Path} {place outer : Location} {name : String}

theorem follow_eq_ok (followed : volume.follow outer name = .ok place) :
    volume.node? outer = some .folder ∧ place = Path.step outer name ∧
      (Path.isIdleName name = false → name ≠ ".." → name.utf8ByteSize ≤ longestName) := by
  rw [follow] at followed
  split at followed
  · contradiction
  · contradiction
  · rename_i folder
    refine ⟨folder, ?_⟩
    by_cases idle : Path.isIdleName name = true
    · simp_all [Path.step]
    · by_cases back : name = ".."
      · simp_all [Path.step]
      · by_cases long : longestName < name.utf8ByteSize
        · simp [idle, back, long] at followed
        · rw [if_neg idle, if_neg back, if_neg long] at followed
          refine ⟨?_, fun _ _ => Nat.le_of_not_lt long⟩
          rw [Path.step, if_neg idle, if_neg back]
          exact (Except.ok.inj followed).symm

theorem followAll_eq_ok
    {names : List String} (followed : volume.followAll outer names = .ok place) :
    place = names.foldl Path.step outer := by
  induction names generalizing outer with
  | nil => exact (Except.ok.inj followed).symm
  | cons name names induction =>
      cases next : volume.follow outer name with
      | error error => simp [followAll, next, bind, Except.bind] at followed
      | ok middle =>
          simp only [followAll, next, bind, Except.bind] at followed
          obtain ⟨_, rfl, _⟩ := follow_eq_ok next
          exact induction followed

theorem locate_eq_ok (located : volume.locate path = .ok place) :
    path.Usable ∧ place = path.target volume.working := by
  rw [locate] at located
  split at located
  · contradiction
  · rename_i noNul
    split at located
    · contradiction
    · rename_i short
      refine ⟨⟨?_, Nat.le_of_not_lt short⟩, followAll_eq_ok located⟩
      intro name member nul
      exact noNul (List.any_eq_true.mpr ⟨name, member, List.contains_iff_mem.mpr nul⟩)

/-- A path with one more name leads on from a folder. -/
theorem locate_enter_eq_ok (located : volume.locate (path.enter name) = .ok place) :
    ∃ outer, volume.locate path = .ok outer ∧ volume.follow outer name = .ok place := by
  obtain ⟨usable, _⟩ := locate_eq_ok located
  rw [locate_enter (noNul_of_enter usable) usable.short] at located
  cases first : volume.locate path with
  | error error => simp [first, Except.bind] at located
  | ok outer =>
      rw [first] at located
      exact ⟨outer, rfl, located⟩

end Volume

end Assay
