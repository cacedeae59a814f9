import CloudBalance.Files.Disk

/-!
# Paths in directories

Main statement: the path of a name in a directory leads from the place of the directory to that name.
-/

namespace CloudBalance

namespace Path

/-- The name of an entry of a directory. -/
structure IsName (name : String) : Prop where
  solid : '/' ∉ name.toList
  present : name ≠ ""
  forward : name ≠ "." ∧ name ≠ ".."

theorem isAbsolute_append {directory : String} (present : directory ≠ "") (rest : String) :
    isAbsolute (directory ++ rest) = isAbsolute directory := by
  obtain ⟨c, cs, written⟩ := List.exists_cons_of_ne_nil fun none => present (String.toList_eq_nil_iff.mp none)
  have slash : "/".toList = ['/'] := rfl
  rw [isAbsolute, isAbsolute, Text.hasStart, Text.hasStart, String.toList_append, written, slash]
  rfl

theorem IsName.relative {name : String} (named : IsName name) : isAbsolute name = false := by
  rw [isAbsolute, Text.hasStart, Bool.eq_false_iff]
  intro start
  obtain ⟨rest, written⟩ := List.isPrefixOf_iff_prefix.mp start
  exact named.solid (written ▸ List.mem_append_left rest (List.mem_singleton.mpr rfl))

theorem names_slash (before name : String) (solid : '/' ∉ name.toList) :
    names (before ++ String.singleton '/' ++ name) = names before ++ [name] := by
  rw [names, Text.split_append, Text.split_of_notMem solid]
  rfl

/-- The names on the way to a name in a directory are those on the way to the directory; an empty name
at their end may be left out. -/
theorem names_join {directory name : String} (named : IsName name) (present : directory ≠ "") :
    ∃ parts, names (join directory name) = parts ++ [name] ∧
      (names directory = parts ∨ names directory = parts ++ [""]) ∧
      isAbsolute (join directory name) = isAbsolute directory ∧ join directory name ≠ "" := by
  rw [join, named.relative, if_neg (by simpa using present)]
  split
  · -- the directory ends in a slash, and its last name is empty
    rename_i slash
    obtain ⟨before, written⟩ := List.getLast?_eq_some_iff.mp slash
    have ending : directory = String.ofList before ++ String.singleton '/' := by
      rw [← String.toList_inj, written]
      simp
    refine ⟨names (String.ofList before), ?_, .inr ?_, isAbsolute_append present name, ?_⟩
    · rw [ending]
      exact names_slash _ _ named.solid
    · rw [ending, ← names_slash _ _ (by simp)]
      simp
    · simp [present]
  · refine ⟨names directory, names_slash _ _ named.solid, .inl rfl, ?_, ?_⟩
    · rw [String.append_assoc]
      exact isAbsolute_append present _
    · simp [present]

end Path

namespace Disk

variable {disk after : Disk} {place start goal : Place}

theorem follow_mono {names : List String} (followed : disk.follow start names = .ok goal)
    (keeps : ∀ place, disk.entry? place = some .directory → after.entry? place = some .directory) :
    after.follow start names = .ok goal := by
  -- every place on the way is a directory, so the same way is taken afterwards
  induction names generalizing start with
  | nil => exact followed
  | cons name names ih =>
    rw [follow] at followed ⊢
    split at followed
    · rename_i directory
      rw [keeps start directory]
      dsimp only
      split
      · rename_i here
        rw [if_pos here] at followed
        exact ih followed
      · rename_i away
        rw [if_neg away] at followed
        split
        · rename_i up
          rw [if_pos up] at followed
          exact ih followed
        · rename_i down
          rw [if_neg down] at followed
          exact ih followed
    · cases followed
    · cases followed

theorem follow_append (start : Place) (first rest : List String) :
    disk.follow start (first ++ rest) =
      (disk.follow start first).bind fun place => disk.follow place rest := by
  induction first generalizing start with
  | nil => rfl
  | cons name first ih =>
    rw [List.cons_append, follow, follow]
    split
    · split
      · exact ih _
      · split
        · exact ih _
        · exact ih _
    · rfl
    · rfl

theorem follow_name {name : String} (named : Path.IsName name)
    (directory : disk.entry? place = some .directory) : disk.follow place [name] = .ok (place ++ [name]) := by
  rw [follow, directory]
  dsimp only
  rw [if_neg (by simp [named.present, named.forward.1]), if_neg named.forward.2]
  rfl

/-- Only a directory leads to a directory. -/
theorem follow_directory {names : List String} (followed : disk.follow start names = .ok goal)
    (directory : disk.entry? goal = some .directory) : disk.entry? start = some .directory := by
  cases names with
  | nil =>
    cases followed
    exact directory
  | cons name names =>
    rw [follow] at followed
    split at followed
    · assumption
    · cases followed
    · cases followed

/-- No directory is made on a way that can be followed to a directory. -/
theorem makePlaces_append {first rest : List String} (followed : disk.follow start first = .ok goal)
    (directory : disk.entry? goal = some .directory) :
    disk.makePlaces start (first ++ rest) = disk.makePlaces goal rest := by
  induction first generalizing start with
  | nil =>
    cases followed
    rfl
  | cons name first ih =>
    rw [List.cons_append, makePlaces]
    rw [follow] at followed
    split at followed
    · split
      · rename_i here
        rw [if_pos here] at followed
        exact ih followed
      · rename_i away
        rw [if_neg away] at followed
        split
        · rename_i up
          rw [if_pos up] at followed
          exact ih followed
        · rename_i down
          rw [if_neg down] at followed
          dsimp only
          -- the next place is a directory already
          rw [follow_directory followed directory]
          exact ih followed
    · cases followed
    · cases followed

/-! ## Places of paths -/

/-- Where a path starts. -/
def origin (disk : Disk) (path : String) : Place :=
  if Path.isAbsolute path then [] else disk.workingPlace

theorem locate_eq {path : String} (present : path ≠ "") :
    disk.locate path = disk.follow (disk.origin path) (Path.names path) := by
  rw [locate, if_neg (by simpa using present)]
  rfl

theorem locate_present {path : String} (located : disk.locate path = .ok place) : path ≠ "" := by
  rintro rfl
  cases located

/-- A path leads where it led before if no directory on its way is lost. -/
theorem locate_mono {path : String} (located : disk.locate path = .ok place)
    (working : after.workingPlace = disk.workingPlace)
    (keeps : ∀ place, disk.entry? place = some .directory → after.entry? place = some .directory) :
    after.locate path = .ok place := by
  have present := locate_present located
  rw [locate_eq present] at located ⊢
  rw [origin, working]
  exact follow_mono located keeps

/-- How a name in a directory is reached. -/
theorem follow_join {directory name : String} (named : Path.IsName name)
    (located : disk.locate directory = .ok place) :
    ∃ parts, Path.names (Path.join directory name) = parts ++ [name] ∧
      disk.follow (disk.origin (Path.join directory name)) parts = .ok place ∧
      Path.join directory name ≠ "" := by
  obtain ⟨parts, listed, ending, absolute, present⟩ := Path.names_join named (locate_present located)
  refine ⟨parts, listed, ?_, present⟩
  rw [locate_eq (locate_present located), origin, ← absolute] at located
  rcases ending with same | slash
  · rw [same] at located
    exact located
  · -- the empty name at the end leads nowhere else
    rw [slash, follow_append] at located
    change (disk.follow (disk.origin (Path.join directory name)) parts).bind _ = _ at located
    cases before : disk.follow (disk.origin (Path.join directory name)) parts with
    | error e =>
      rw [before] at located
      cases located
    | ok reached =>
      rw [before] at located
      change disk.follow reached [""] = _ at located
      rw [follow] at located
      split at located
      · exact located
      · cases located
      · cases located

theorem locate_join {directory name : String} (named : Path.IsName name)
    (located : disk.locate directory = .ok place) :
    disk.locate (Path.join directory name) = disk.follow place [name] := by
  obtain ⟨parts, listed, followed, present⟩ := follow_join named located
  rw [locate_eq present, listed, follow_append, followed]
  rfl

theorem makeDirectories_join {directory name : String} (named : Path.IsName name)
    (located : disk.locate directory = .ok place) (there : disk.entry? place = some .directory) :
    disk.makeDirectories (Path.join directory name) =
      match disk.entry? (place ++ [name]) with
      | some .directory => .ok disk
      | some (.file _) => .error .alreadyExists
      | none => .ok (disk.put (place ++ [name]) (some .directory)) := by
  obtain ⟨parts, listed, followed, _⟩ := follow_join named located
  rw [makeDirectories, listed]
  change disk.makePlaces (disk.origin (Path.join directory name)) (parts ++ [name]) = _
  rw [makePlaces_append followed there, makePlaces,
    if_neg (by simp [named.present, named.forward.1]), if_neg named.forward.2]
  rfl

end Disk

end CloudBalance
