import CloudBalance.Ledger.Lock
import CloudBalance.Proofs.Files.Disk
import CloudBalance.Proofs.Files.Path
import Mathlib.Logic.Function.Basic

/-!
# The files of a project on a disk

What lies in the directory of a project, by name. Main statements: what is written to the directory,
renamed in it or removed from it is found there, moved or gone afterwards, and nothing else changes in it.
-/

namespace CloudBalance

namespace Ledger.Store

open Disk (Place Entry)

variable {store : Store} {disk after : Disk} {root : Place} {contents : String → Option Entry}
  {name : String}

/-! ## Places -/

/-- Where an entry of the directory lies. -/
def place (root : Place) (name : String) : Place :=
  root ++ [".nimbus"] ++ [name]

/-- The project lies in a directory of a sound disk. -/
structure At (store : Store) (disk : Disk) (root : Place) : Prop where
  sound : disk.Sound
  located : disk.locate store.projectRoot = .ok root
  directory : disk.entry? root = some .directory

theorem isName_directory : Path.IsName ".nimbus" :=
  ⟨by decide, by decide, by decide⟩

theorem place_ne_nil : place root name ≠ [] := by
  simp [place]

theorem dropLast_place : (place root name).dropLast = root ++ [".nimbus"] := by
  rw [place, List.dropLast_concat]

theorem place_ne_directory : place root name ≠ root ++ [".nimbus"] := by
  intro same
  have := congrArg List.length same
  simp [place] at this

theorem place_inj {other : String} : place root name = place root other ↔ name = other := by
  simp [place]

theorem At.locate_directory (located : store.At disk root) :
    disk.locate store.directory = .ok (root ++ [".nimbus"]) := by
  rw [Store.directory, Disk.locate_join isName_directory located.located]
  exact Disk.follow_name isName_directory located.directory

theorem At.keeps (located : store.At disk root) (sound : after.Sound)
    (working : after.workingPlace = disk.workingPlace)
    (keeps : ∀ place, disk.entry? place = some .directory → after.entry? place = some .directory) :
    store.At after root where
  sound := sound
  located := Disk.locate_mono located.located working keeps
  directory := keeps root located.directory

theorem At.locate_file (located : store.At disk root) (named : Path.IsName name)
    (directory : disk.entry? (root ++ [".nimbus"]) = some .directory) :
    disk.locate (Path.join store.directory name) = .ok (place root name) := by
  rw [Disk.locate_join named located.locate_directory]
  exact Disk.follow_name named directory

theorem At.directory_of_locate (located : store.At disk root) (named : Path.IsName name) {found : Place}
    (led : disk.locate (Path.join store.directory name) = .ok found) :
    disk.entry? (root ++ [".nimbus"]) = some .directory ∧ found = place root name := by
  rw [Disk.locate_join named located.locate_directory] at led
  -- a name is looked up only in a directory
  by_cases directory : disk.entry? (root ++ [".nimbus"]) = some .directory
  · rw [Disk.follow_name named directory] at led
    cases led
    exact ⟨directory, rfl⟩
  · rw [Disk.follow] at led
    split at led
    · exact absurd ‹_› directory
    · cases led
    · cases led

theorem At.find?_file (located : store.At disk root) (named : Path.IsName name) :
    disk.find? (Path.join store.directory name) = disk.entry? (place root name) := by
  rw [Disk.find?]
  split
  · rename_i found led
    rw [(located.directory_of_locate named led).2]
  · rename_i e lost
    -- what lies in a directory makes it one
    cases entry : disk.entry? (place root name) with
    | none => rfl
    | some its =>
      have parent := located.sound.parent entry
      rw [dropLast_place] at parent
      rw [located.locate_file named parent] at lost
      cases lost

/-! ## Contents -/

/-- What lies in the directory of the project, by name. -/
def Holds (store : Store) (disk : Disk) (contents : String → Option Entry) : Prop :=
  ∃ root, store.At disk root ∧ ∀ name, disk.entry? (place root name) = contents name

theorem At.holds (located : store.At disk root) : store.Holds disk fun name => disk.entry? (place root name) :=
  ⟨root, located, fun _ => rfl⟩

theorem Holds.find?_file (holds : store.Holds disk contents) (named : Path.IsName name) :
    disk.find? (Path.join store.directory name) = contents name := by
  obtain ⟨root, located, found⟩ := holds
  rw [located.find?_file named, found]

theorem Holds.exists?_file (holds : store.Holds disk contents) (named : Path.IsName name) :
    disk.exists? (Path.join store.directory name) = (contents name).isSome := by
  rw [Disk.exists?, holds.find?_file named]

theorem Holds.read_file (holds : store.Holds disk contents) (named : Path.IsName name)
    {bytes : ByteArray} :
    disk.read (Path.join store.directory name) = .ok bytes ↔ contents name = some (.file bytes) := by
  rw [Disk.read_ok, holds.find?_file named]

/-- A file of the directory is replaced, made or removed. -/
theorem Holds.put (holds : store.Holds disk contents) (named : Path.IsName name) {found : Place}
    (entry : Option Entry) (led : disk.locate (Path.join store.directory name) = .ok found)
    (free : disk.entry? found ≠ some .directory) :
    store.Holds (disk.put found entry) (Function.update contents name entry) := by
  obtain ⟨root, located, lies⟩ := holds
  obtain ⟨directory, rfl⟩ := located.directory_of_locate named led
  have change : disk.ChangedAt (disk.put (place root name) entry) (place root name) entry :=
    Disk.changedAt_put place_ne_nil entry
  refine ⟨root, located.keeps ?_ change.working fun _ => change.keeps free, fun other => ?_⟩
  · exact located.sound.put place_ne_nil entry free (by rwa [dropLast_place])
  · rw [change.entries, Function.update_apply, lies]
    simp only [place_inj]

theorem Holds.write_file (holds : store.Holds disk contents) (named : Path.IsName name)
    {bytes : ByteArray} (written : disk.write (Path.join store.directory name) bytes = .ok after) :
    store.Holds after (Function.update contents name (some (.file bytes))) := by
  obtain ⟨found, led, _, free, rfl⟩ := Disk.write_ok written
  exact holds.put named _ led free

theorem Holds.remove_file (holds : store.Holds disk contents) (named : Path.IsName name)
    (removed : disk.remove (Path.join store.directory name) = .ok after) :
    store.Holds after (Function.update contents name none) := by
  obtain ⟨found, its, led, file, rfl⟩ := Disk.remove_ok removed
  exact holds.put named _ led (by simp [file])

theorem Holds.rename_file (holds : store.Holds disk contents) {old new : String} (known : Path.IsName old)
    (named : Path.IsName new) (differs : old ≠ new) {bytes : ByteArray}
    (file : contents old = some (.file bytes))
    (renamed : disk.rename (Path.join store.directory old) (Path.join store.directory new) = .ok after) :
    store.Holds after (Function.update (Function.update contents new (contents old)) old none) := by
  obtain ⟨root, located, lies⟩ := holds
  have there : disk.entry? (place root old) = some (.file bytes) := (lies old).trans file
  have directory : disk.entry? (root ++ [".nimbus"]) = some .directory := by
    have := located.sound.parent there
    rwa [dropLast_place] at this
  obtain ⟨target, led, _, free, moves⟩ :=
    Disk.rename_ok renamed (located.locate_file known directory) there
  obtain ⟨_, rfl⟩ := located.directory_of_locate named led
  have apart : place root old ≠ place root new := fun same => differs (place_inj.mp same)
  obtain rfl := moves apart
  have change := Disk.moved_move located.sound there apart place_ne_nil
  refine ⟨root, located.keeps ?_ change.working fun _ => change.keeps there free, fun other => ?_⟩
  · exact located.sound.move there apart place_ne_nil free (by rwa [dropLast_place])
  · rw [change.entries, Function.update_apply, Function.update_apply, lies, lies]
    simp only [place_inj]
    by_cases fresh : other = new
    · rw [if_pos fresh, if_neg (fun same => differs (same.symm.trans fresh)), if_pos fresh]
    · rw [if_neg fresh, if_neg fresh]

/-- The directory is made where it is missing, with nothing in it. -/
theorem Holds.makeDirectory (holds : store.Holds disk contents)
    (made : disk.makeDirectories store.directory = .ok after) : store.Holds after contents := by
  obtain ⟨root, located, lies⟩ := holds
  rw [Store.directory, Disk.makeDirectories_join isName_directory located.located located.directory] at made
  split at made
  · cases made
    exact ⟨root, located, lies⟩
  · cases made
  · rename_i missing
    cases made
    have inside : root ++ [".nimbus"] ≠ [] := by simp
    have free : disk.entry? (root ++ [".nimbus"]) ≠ some .directory := by simp [missing]
    have change : disk.ChangedAt (disk.put (root ++ [".nimbus"]) (some .directory)) (root ++ [".nimbus"])
        (some .directory) :=
      Disk.changedAt_put inside _
    refine ⟨root, located.keeps ?_ change.working fun _ => change.keeps free, fun other => ?_⟩
    · exact located.sound.put inside _ free (by rw [List.dropLast_concat]; exact located.directory)
    · rw [change.entry?_other place_ne_directory, lies]

/-! ## A project in the root -/

def atRoot : Store := ⟨"/"⟩

/-- It is there as soon as its directory is, with files in that. -/
theorem at_files {files : List (Place × Entry)} (within : ∀ file ∈ files, file.1.dropLast = [".nimbus"]) :
    atRoot.At ⟨([".nimbus"], .directory) :: files, []⟩ [] where
  sound := by
    intro place entry member
    rcases List.mem_cons.mp member with same | file
    · cases same
      rfl
    · rw [within _ file]
      rfl
  located := rfl
  directory := rfl

theorem holds_empty : atRoot.Holds ⟨[], []⟩ fun _ => none :=
  ⟨[], ⟨nofun, rfl, rfl⟩, fun _ => rfl⟩

end Ledger.Store

end CloudBalance
