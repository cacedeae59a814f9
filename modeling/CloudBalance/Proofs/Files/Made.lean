import CloudBalance.Proofs.Files.Disk
import CloudBalance.Proofs.Files.Path

/-!
# Files and directories that are made

Main statements: a file that was written is found at its path, whatever was there before; and the directories that
are made for a path that does not go up are there afterwards, with nothing in the last one that was not there.
-/

namespace CloudBalance.Disk

variable {disk after : Disk} {path name : String} {place start goal : Place} {names : List String} {entry : Entry}

theorem find?_write {bytes : ByteArray} (written : disk.write path bytes = .ok after) :
    after.find? path = some (.file bytes) := by
  obtain ⟨place, located, _, free, rfl⟩ := write_ok written
  have inside : place ≠ [] := by
    rintro rfl
    exact free rfl
  have change : disk.ChangedAt (disk.put place (some (.file bytes))) place (some (.file bytes)) :=
    changedAt_put inside _
  rw [find?, locate_mono located change.working fun _ => change.keeps free]
  exact (change.entries place).trans (if_pos rfl)

/-! ## Paths that do not go up -/

/-- The names on a way that lead further down. -/
def down (names : List String) : List String :=
  names.filter fun name => !(name = "" || name = ".")

theorem down_stay (here : (name = "" || name = ".") = true) : down (name :: names) = down names :=
  List.filter_cons_of_neg (by simp [here])

theorem down_name (named : Path.IsName name) (first : List String) : down (first ++ [name]) = down first ++ [name] := by
  rw [down, List.filter_append, List.filter_cons_of_pos (by simp [named.present, named.forward.1]), List.filter_nil]
  rfl

theorem down_go (away : ¬ (name = "" || name = ".") = true) : down (name :: names) = name :: down names :=
  List.filter_cons_of_pos (by simpa using away)

/-- Whatever a place in a sound disk lies in is a directory. -/
theorem Sound.above (sound : disk.Sound) {rest : List String} (found : disk.entry? (place ++ rest) = some entry)
    (inside : rest ≠ []) : disk.entry? place = some .directory := by
  induction rest generalizing place with
  | nil => exact absurd rfl inside
  | cons name rest ih =>
    rw [List.append_cons] at found
    have below : ∃ its, disk.entry? (place ++ [name]) = some its := by
      by_cases last : rest = []
      · rw [last, List.append_nil] at found
        exact ⟨_, found⟩
      · exact ⟨_, ih found last⟩
    obtain ⟨_, below⟩ := below
    have parent := sound.parent below
    rwa [List.dropLast_concat] at parent

/-- A way that does not go up leads down along its names. -/
theorem follow_down (straight : ".." ∉ names) (followed : disk.follow start names = .ok goal) :
    goal = start ++ down names := by
  induction names generalizing start with
  | nil =>
    cases followed
    exact (List.append_nil _).symm
  | cons name names ih =>
    obtain ⟨forward, straight⟩ := List.ne_and_not_mem_of_not_mem_cons straight
    rw [follow] at followed
    split at followed
    · by_cases here : (name = "" || name = ".") = true
      · rw [if_pos here] at followed
        rw [ih straight followed, down_stay here]
      · rw [if_neg here, if_neg (Ne.symm forward)] at followed
        rw [ih straight followed, down_go here, List.append_cons start name (down names)]
    · cases followed
    · cases followed

/-- A directory is reached by going down. -/
theorem Sound.follow_of_directory (sound : disk.Sound) (straight : ".." ∉ names)
    (directory : disk.entry? (start ++ down names) = some .directory) :
    disk.follow start names = .ok (start ++ down names) := by
  induction names generalizing start with
  | nil => rw [follow, show down [] = [] from rfl, List.append_nil]
  | cons name names ih =>
    obtain ⟨forward, straight⟩ := List.ne_and_not_mem_of_not_mem_cons straight
    have begins : disk.entry? start = some .directory := by
      by_cases last : down (name :: names) = []
      · rwa [last, List.append_nil] at directory
      · exact sound.above directory last
    rw [follow, begins]
    dsimp only
    by_cases here : (name = "" || name = ".") = true
    · rw [down_stay here] at directory ⊢
      rw [if_pos here]
      exact ih straight directory
    · rw [down_go here, List.append_cons start name (down names)] at directory ⊢
      rw [if_neg here, if_neg (Ne.symm forward)]
      exact ih straight directory

/-! ## Making directories -/

/-- The directories down to a place have been made. -/
structure MadeTo (disk after : Disk) (goal : Place) : Prop where
  sound : after.Sound
  working : after.workingPlace = disk.workingPlace
  directory : after.entry? goal = some .directory
  /-- Nothing has changed beside the way. -/
  beside : ∀ place, ¬ place <+: goal → after.entry? place = disk.entry? place

theorem makePlaces_down (sound : disk.Sound) (straight : ".." ∉ names)
    (begins : disk.entry? start = some .directory) (made : disk.makePlaces start names = .ok after) :
    disk.MadeTo after (start ++ down names) := by
  induction names generalizing disk start with
  | nil =>
    cases made
    rw [show down [] = [] from rfl, List.append_nil]
    exact ⟨sound, rfl, begins, fun _ _ => rfl⟩
  | cons name names ih =>
    obtain ⟨forward, straight⟩ := List.ne_and_not_mem_of_not_mem_cons straight
    rw [makePlaces] at made
    by_cases here : (name = "" || name = ".") = true
    · rw [if_pos here] at made
      rw [down_stay here]
      exact ih sound straight begins made
    · rw [if_neg here, if_neg (Ne.symm forward)] at made
      rw [down_go here, List.append_cons start name (down names)]
      dsimp only at made
      split at made
      · rename_i there
        exact ih sound straight there made
      · cases made
      · -- the next directory is new, and it lies on the way
        rename_i missing
        have inside : start ++ [name] ≠ [] := by simp
        have change : disk.ChangedAt (disk.put (start ++ [name]) (some .directory)) (start ++ [name])
            (some .directory) :=
          changedAt_put inside _
        have sound' := sound.put inside (some .directory) (by simp [missing]) (by rwa [List.dropLast_concat])
        have later := ih sound' straight ((change.entries _).trans (if_pos rfl)) made
        refine ⟨later.sound, later.working.trans change.working, later.directory, fun place away => ?_⟩
        rw [later.beside place away, change.entry?_other]
        rintro rfl
        exact away (List.prefix_append _ _)

/-! ## Paths that lead down -/

/-- The place that a path leads to if it does not go up. -/
def below (disk : Disk) (path : String) : Place :=
  disk.origin path ++ down (Path.names path)

/-- A path that does not go up. -/
structure Straight (path : String) : Prop where
  present : path ≠ ""
  forward : ".." ∉ Path.names path

theorem Straight.join (straight : Straight path) (named : Path.IsName name) : Straight (Path.join path name) := by
  obtain ⟨parts, listed, ending, _, present⟩ := Path.names_join named straight.present
  refine ⟨present, ?_⟩
  rw [listed]
  have forward := straight.forward
  rcases ending with same | slash
  · simpa [← same, Ne.symm named.forward.2] using forward
  · rw [slash] at forward
    simpa [Ne.symm named.forward.2] using forward

theorem below_join (present : path ≠ "") (named : Path.IsName name) :
    disk.below (Path.join path name) = disk.below path ++ [name] := by
  obtain ⟨parts, listed, ending, absolute, _⟩ := Path.names_join named present
  have same : down (Path.names path) = down parts := by
    rcases ending with same | slash
    · rw [same]
    · simp [slash, down]
  rw [below, below, listed, down_name named, same, origin, origin, absolute, List.append_assoc]

theorem Straight.locate (straight : Straight path) (located : disk.locate path = .ok place) :
    place = disk.below path := by
  rw [locate_eq straight.present] at located
  exact follow_down straight.forward located

theorem Straight.locate_of_directory (straight : Straight path) (sound : disk.Sound)
    (directory : disk.entry? (disk.below path) = some .directory) : disk.locate path = .ok (disk.below path) := by
  rw [locate_eq straight.present]
  exact sound.follow_of_directory straight.forward directory

/-- What lies at a path that does not go up lies in directories. -/
theorem Straight.above (straight : Straight path) (sound : disk.Sound) (named : Path.IsName name)
    (found : disk.find? (Path.join path name) = some entry) : disk.entry? (disk.below path) = some .directory := by
  rw [find?] at found
  split at found
  · rename_i located
    rw [(straight.join named).locate located, below_join straight.present named] at found
    exact sound.above found (List.cons_ne_nil _ _)
  · cases found

theorem Straight.makeDirectories (straight : Straight path) (sound : disk.Sound)
    (begins : disk.entry? (disk.origin path) = some .directory) (made : disk.makeDirectories path = .ok after) :
    disk.MadeTo after (disk.below path) :=
  makePlaces_down sound straight.forward begins made

end CloudBalance.Disk
