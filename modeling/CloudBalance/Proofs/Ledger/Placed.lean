import CloudBalance.Proofs.Files.Faltering
import CloudBalance.Proofs.Files.Made
import CloudBalance.Proofs.Ledger.Store

/-!
# Where a project may lie

A project lies in a directory, or in one that can be made when something is stored in it first. Main statement: once
the directory is there it holds what was found in it before, and if it cannot be made nothing has changed.
-/

namespace CloudBalance.Ledger.Store

open Disk (Entry)

variable {store : Store} {disk after : Disk} {contents : String → Option Entry} {name : String}

/-! ## Projects without a directory -/

/-- The way to the project does not go up, so that its directory can be made where it is missing. -/
structure CanBeMade (store : Store) (disk : Disk) : Prop where
  sound : disk.Sound
  straight : Disk.Straight store.projectRoot
  begins : disk.entry? (disk.origin store.projectRoot) = some .directory

/-- The project lies in a directory, or it can be made. -/
def Placed (store : Store) (disk : Disk) : Prop :=
  (∃ root, store.At disk root) ∨ store.CanBeMade disk

theorem Holds.placed (holds : store.Holds disk contents) : store.Placed disk :=
  have ⟨root, located, _⟩ := holds
  .inl ⟨root, located⟩

/-- The project has no directory yet. -/
structure Missing (store : Store) (disk : Disk) : Prop extends store.CanBeMade disk where
  absent : disk.entry? (disk.below store.projectRoot) ≠ some .directory

theorem Placed.cases (placed : store.Placed disk) : (∃ contents, store.Holds disk contents) ∨ store.Missing disk := by
  rcases placed with ⟨root, located⟩ | made
  · exact .inl ⟨_, located.holds⟩
  · by_cases there : disk.entry? (disk.below store.projectRoot) = some .directory
    · have located := made.straight.locate_of_directory made.sound there
      exact .inl ⟨_, At.holds ⟨made.sound, located, there⟩⟩
    · exact .inr ⟨made, there⟩

theorem Missing.entry?_below (missing : store.Missing disk) {rest : List String} (inside : rest ≠ []) :
    disk.entry? (disk.below store.projectRoot ++ rest) = none := by
  cases found : disk.entry? (disk.below store.projectRoot ++ rest) with
  | none => rfl
  | some entry => exact absurd (missing.sound.above found inside) missing.absent

theorem Missing.exists?_directory (missing : store.Missing disk) : disk.exists? store.directory = false := by
  rw [Disk.exists?, Option.isSome_eq_false_iff, Option.isNone_iff_eq_none]
  cases found : disk.find? store.directory with
  | none => rfl
  | some entry => exact absurd (missing.straight.above missing.sound isName_directory found) missing.absent

theorem Missing.find?_file (missing : store.Missing disk) (named : Path.IsName name) :
    disk.find? (Path.join store.directory name) = none := by
  cases found : disk.find? (Path.join store.directory name) with
  | none => rfl
  | some entry =>
    have directory := (missing.straight.join isName_directory).above missing.sound named found
    rw [Disk.below_join missing.straight.present isName_directory, missing.entry?_below (by simp)] at directory
    cases directory

/-- The directory is made with nothing in it. -/
theorem Missing.makeDirectory (missing : store.Missing disk)
    (made : disk.makeDirectories store.directory = .ok after) : store.Holds after fun _ => none := by
  have below : disk.below store.directory = disk.below store.projectRoot ++ [".nimbus"] :=
    Disk.below_join missing.straight.present isName_directory
  have begins : disk.entry? (disk.origin store.directory) = some .directory := by
    obtain ⟨_, _, _, absolute, _⟩ := Path.names_join isName_directory missing.straight.present
    rw [Disk.origin, directory, absolute]
    exact missing.begins
  have all := (missing.straight.join isName_directory).makeDirectories missing.sound begins made
  have same : after.below store.projectRoot = disk.below store.projectRoot := by
    rw [Disk.below, Disk.below, Disk.origin, Disk.origin, all.working]
  have root : after.entry? (after.below store.projectRoot) = some .directory := by
    have inner := all.directory
    rw [show disk.below (Path.join store.projectRoot ".nimbus") = _ from below] at inner
    rw [same]
    exact all.sound.above inner (List.cons_ne_nil _ _)
  refine ⟨_, ⟨all.sound, missing.straight.locate_of_directory all.sound root, root⟩, fun name => ?_⟩
  rw [all.beside, same, place, List.append_assoc]
  · exact missing.entry?_below (by simp)
  · -- what lies in the directory lies below all that was made
    intro within
    have shorter := within.length_le
    rw [show disk.below (Path.join store.projectRoot ".nimbus") = _ from below, same] at shorter
    simp [place] at shorter

/-! ## Making the directory -/

/-- All that is found in the directory is found there still. -/
def SameFiles (store : Store) (before after : Disk) : Prop :=
  ∀ name, Path.IsName name →
    after.find? (Path.join store.directory name) = before.find? (Path.join store.directory name)

theorem Placed.makeDirectory (placed : store.Placed disk) (made : disk.makeDirectories store.directory = .ok after) :
    (∃ contents, store.Holds after contents) ∧ store.SameFiles disk after := by
  rcases placed.cases with ⟨contents, holds⟩ | missing
  · have holds' := holds.makeDirectory made
    exact ⟨⟨_, holds'⟩, fun name named => by rw [holds.find?_file named, holds'.find?_file named]⟩
  · have holds := missing.makeDirectory made
    exact ⟨⟨_, holds⟩, fun name named => by rw [missing.find?_file named, holds.find?_file named]⟩

/-- The directory is there already, or it is made, or it cannot be. -/
theorem throughout_ensureDirectory_placed (placed : store.Placed disk) :
    store.ensureDirectory.run.Throughout Local.faltering (fun s => store.Placed s ∧ store.SameFiles disk s) disk
      fun result after => result = .ok () → ∃ contents, store.Holds after contents := by
  have here : store.Placed disk ∧ store.SameFiles disk disk := ⟨placed, fun _ _ => rfl⟩
  simp only [ensureDirectory, Attempt.throughout_bind, Attempt.throughout_lift]
  refine Local.throughout_exists? here ?_
  split
  · simp only [Attempt.throughout_bind, Attempt.throughout_attempt, Attempt.throughout_lift]
    refine Local.throughout_makeDirectories here (by simp [Except.mapError]) fun after made => ?_
    obtain ⟨⟨contents, holds⟩, same⟩ := placed.makeDirectory made
    exact ⟨⟨holds.placed, same⟩, Local.throughout_note ⟨holds.placed, same⟩ fun _ => ⟨contents, holds⟩⟩
  · rename_i there
    rcases placed.cases with holds | missing
    · exact ⟨here, fun _ => holds⟩
    · simp [missing.exists?_directory] at there

theorem ensures_ensureDirectory_placed (placed : store.Placed disk) :
    store.ensureDirectory.run.Ensures Local.faltering disk fun result after =>
      store.SameFiles disk after ∧ (result = .ok () → ∃ contents, store.Holds after contents) :=
  (throughout_ensureDirectory_placed placed).ensures.mono fun _ _ ⟨⟨_, same⟩, ensured⟩ => ⟨same, ensured⟩

/-- Where files work the directory is there afterwards, with what was found in it before. -/
theorem ensures_ensureDirectory_found (placed : store.Placed disk) :
    store.ensureDirectory.run.Ensures Local.onDisk disk fun result after =>
      result = .ok () ∧ ∃ contents, store.Holds after contents ∧
        ∀ name, Path.IsName name → contents name = disk.find? (Path.join store.directory name) := by
  have done : store.ensureDirectory.run.Ensures Local.onDisk disk fun result _ => result = .ok () := by
    simp only [ensureDirectory, Attempt.ensures_bind, Attempt.ensures_lift, Local.ensures_exists?]
    split
    · simp [Except.mapError]
    · exact Attempt.ensures_pure.mpr rfl
  have found := (ensures_ensureDirectory_placed placed).narrow Local.faltering_of_onDisk
  intro events result after run
  obtain ⟨same, there⟩ := found _ _ _ run
  have succeeded := done _ _ _ run
  obtain ⟨contents, holds⟩ := there succeeded
  exact ⟨succeeded, contents, holds, fun name named => (holds.find?_file named).symm.trans (same name named)⟩

end CloudBalance.Ledger.Store
