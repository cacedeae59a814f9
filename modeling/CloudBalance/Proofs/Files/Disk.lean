import CloudBalance.Files.Disk
import CloudBalance.Proofs.Lookup

/-!
# Changes of a disk

A disk is sound if everything on it lies in a directory. Main statements: writing, removing and renaming
a file, and making a directory, change a sound disk at the places of their paths and nowhere else, and
leave it sound.
-/

namespace CloudBalance.Disk

/-- Everything lies in a directory. -/
def Sound (disk : Disk) : Prop :=
  ∀ place entry, (place, entry) ∈ disk.entries → disk.entry? place.dropLast = some .directory

variable {disk after : Disk} {place other : Place}

/-! ## Entries -/

theorem entry?_of_ne_nil (inside : place ≠ []) : disk.entry? place = disk.entries.lookup place := by
  unfold entry?
  rw [if_neg (by simpa using inside)]

theorem mem_entries {entry : Entry} (inside : place ≠ []) (found : disk.entry? place = some entry) :
    (place, entry) ∈ disk.entries :=
  mem_of_lookup ((entry?_of_ne_nil inside).symm.trans found)

theorem Sound.parent (sound : disk.Sound) {entry : Entry} (found : disk.entry? place = some entry) :
    disk.entry? place.dropLast = some .directory := by
  by_cases inside : place = []
  · rw [inside]
    rfl
  · exact sound place entry (mem_entries inside found)

/-- Nothing lies within a file. -/
theorem Sound.leaf (sound : disk.Sound) {bytes : ByteArray} (file : disk.entry? place = some (.file bytes))
    {entry : Entry} (rest : List String) (member : (place ++ rest, entry) ∈ disk.entries) : rest = [] := by
  rcases List.eq_nil_or_concat rest with rfl | ⟨before, name, rfl⟩
  · rfl
  · have parent := sound _ _ member
    rw [List.concat_eq_append, ← List.append_assoc, List.dropLast_concat] at parent
    by_cases root : place ++ before = []
    · rw [(List.append_eq_nil_iff.mp root).1] at file
      cases file
    · -- the directory of the entry is the file itself
      rw [sound.leaf file before (mem_entries root parent), List.append_nil, file] at parent
      cases parent
  termination_by rest.length
  decreasing_by simp_all

/-! ## Changes at a place -/

/-- The disk has changed at one place at most. -/
structure ChangedAt (disk after : Disk) (place : Place) (entry : Option Entry) : Prop where
  working : after.workingPlace = disk.workingPlace
  entries : ∀ other, after.entry? other = if other = place then entry else disk.entry? other

theorem changedAt_put (inside : place ≠ []) (entry : Option Entry) :
    disk.ChangedAt (disk.put place entry) place entry where
  working := by cases entry <;> rfl
  entries other := by
    by_cases root : other = []
    · subst root
      rw [if_neg (Ne.symm inside)]
      rfl
    · rw [entry?_of_ne_nil root, entry?_of_ne_nil root]
      cases entry with
      | none => exact lookup_filter_ne disk.entries place other
      | some entry =>
        change (disk.entries.filter (·.1 != place) ++ [(place, entry)]).lookup other = _
        rw [List.lookup_append, lookup_filter_ne]
        by_cases same : other = place
        · simp [same]
        · simp [List.lookup_cons, beq_eq_false_iff_ne.mpr same, same]

theorem ChangedAt.entry?_other {entry : Option Entry} (change : disk.ChangedAt after place entry)
    (differs : other ≠ place) : after.entry? other = disk.entry? other := by
  rw [change.entries, if_neg differs]

theorem ChangedAt.keeps {entry : Option Entry} (change : disk.ChangedAt after place entry)
    (file : disk.entry? place ≠ some .directory) (directory : disk.entry? other = some .directory) :
    after.entry? other = some .directory := by
  rw [change.entry?_other]
  · exact directory
  · rintro rfl
    exact file directory

theorem mem_put {entry : Option Entry} {its : Entry}
    (member : (other, its) ∈ (disk.put place entry).entries) :
    (other ≠ place ∧ (other, its) ∈ disk.entries) ∨ (other = place ∧ entry = some its) := by
  cases entry with
  | none => exact .inl (by simpa [put, and_comm] using member)
  | some entry =>
    rcases List.mem_append.mp member with old | new
    · exact .inl (by simpa [and_comm] using old)
    · cases List.mem_singleton.mp new
      exact .inr ⟨rfl, rfl⟩

theorem Sound.put (sound : disk.Sound) (inside : place ≠ []) (entry : Option Entry)
    (file : disk.entry? place ≠ some .directory)
    (parent : disk.entry? place.dropLast = some .directory) : (disk.put place entry).Sound := by
  intro other its member
  apply (changedAt_put inside entry).keeps file
  rcases mem_put member with ⟨_, old⟩ | ⟨rfl, _⟩
  · exact sound other its old
  · exact parent

/-! ## Moving a file -/

/-- The entries after a file was moved, where nothing lies within it. -/
def moved (source target : Place) (items : List (Place × Entry)) : List (Place × Entry) :=
  (items.filter (·.1 != target)).map fun (place, entry) =>
    if place = source then (target, entry) else (place, entry)

theorem move_entries (sound : disk.Sound) {source target : Place} {bytes : ByteArray}
    (file : disk.entry? source = some (.file bytes)) :
    (disk.move source target).entries = moved source target disk.entries := by
  apply List.map_congr_left
  rintro ⟨place, entry⟩ member
  have listed : (place, entry) ∈ disk.entries := (List.mem_filter.mp member).1
  dsimp only
  by_cases within : source.isPrefixOf place
  · -- within a file lies nothing but the file itself
    obtain ⟨rest, rfl⟩ := List.isPrefixOf_iff_prefix.mp within
    rw [if_pos within, sound.leaf file rest listed]
    simp
  · rw [if_neg within, if_neg]
    rintro rfl
    exact within (by simp)

theorem lookup_moved {source target : Place} (differs : source ≠ target)
    (items : List (Place × Entry)) :
    (moved source target items).lookup other =
      if other = target then items.lookup source
      else if other = source then none else items.lookup other := by
  induction items with
  | nil => simp [moved]
  | cons item items ih =>
    obtain ⟨its, value⟩ := item
    rw [moved] at ih ⊢
    by_cases gone : its = target
    · -- what lay at the target gives way
      subst gone
      rw [List.filter_cons_of_neg (by simp), ih]
      by_cases there : other = its
      · simp [there, List.lookup_cons, beq_eq_false_iff_ne.mpr differs]
      · simp [there, List.lookup_cons, beq_eq_false_iff_ne.mpr there]
    · rw [List.filter_cons_of_pos (by simpa using gone), List.map_cons]
      dsimp only
      by_cases here : its = source
      · -- what lay at the source is found at the target
        subst here
        rw [if_pos rfl, List.lookup_cons, ih]
        by_cases there : other = target
        · simp [there]
        · by_cases same : other = its
          · simp [gone, same, beq_eq_false_iff_ne.mpr differs]
          · simp [there, same, List.lookup_cons, beq_eq_false_iff_ne.mpr there,
              beq_eq_false_iff_ne.mpr same]
      · rw [if_neg here, List.lookup_cons, ih]
        by_cases same : other = its
        · subst same
          simp [gone, here]
        · rw [beq_eq_false_iff_ne.mpr same, List.lookup_cons, List.lookup_cons,
            beq_eq_false_iff_ne.mpr same, beq_eq_false_iff_ne.mpr (Ne.symm here)]

/-- A file has moved from one place to another. -/
structure Moved (disk after : Disk) (source target : Place) : Prop where
  working : after.workingPlace = disk.workingPlace
  entries : ∀ other, after.entry? other =
    if other = target then disk.entry? source else if other = source then none else disk.entry? other

theorem moved_move (sound : disk.Sound) {source target : Place} {bytes : ByteArray}
    (file : disk.entry? source = some (.file bytes)) (differs : source ≠ target) (inside : target ≠ []) :
    disk.Moved (disk.move source target) source target where
  working := rfl
  entries other := by
    have within : source ≠ [] := by
      rintro rfl
      cases file
    by_cases root : other = []
    · subst root
      rw [if_neg (Ne.symm inside), if_neg (Ne.symm within)]
      rfl
    · rw [entry?_of_ne_nil root, move_entries sound file, lookup_moved differs, entry?_of_ne_nil within,
        entry?_of_ne_nil root]

theorem Moved.keeps {source target : Place} {bytes : ByteArray} (change : disk.Moved after source target)
    (file : disk.entry? source = some (.file bytes)) (free : disk.entry? target ≠ some .directory)
    (directory : disk.entry? other = some .directory) : after.entry? other = some .directory := by
  rw [change.entries, if_neg, if_neg]
  · exact directory
  · rintro rfl
    rw [file] at directory
    cases directory
  · rintro rfl
    exact free directory

theorem Sound.move (sound : disk.Sound) {source target : Place} {bytes : ByteArray}
    (file : disk.entry? source = some (.file bytes)) (differs : source ≠ target) (inside : target ≠ [])
    (free : disk.entry? target ≠ some .directory)
    (parent : disk.entry? target.dropLast = some .directory) : (disk.move source target).Sound := by
  intro other its member
  apply (moved_move sound file differs inside).keeps file free
  rw [move_entries sound file] at member
  obtain ⟨⟨place, entry⟩, listed, same⟩ := List.mem_map.mp member
  dsimp only at same
  split at same
  · -- this is the file that was moved
    cases same
    exact parent
  · cases same
    exact sound _ _ (List.mem_filter.mp listed).1

/-! ## Operations that succeed -/

variable {path old new : String} {bytes : ByteArray}

theorem read_ok : disk.read path = .ok bytes ↔ disk.find? path = some (.file bytes) := by
  simp only [Disk.read, find?, bind, Except.bind]
  cases disk.locate path with
  | error e => simp
  | ok place =>
    dsimp only
    cases disk.entry? place with
    | none => simp
    | some entry => cases entry <;> simp

theorem locateNew_ok (located : disk.locateNew path = .ok place) :
    disk.locate path = .ok place ∧ disk.entry? place.dropLast = some .directory := by
  simp only [locateNew, bind, Except.bind] at located
  split at located
  · cases located
  · rename_i found led
    split at located
    · rename_i directory
      cases located
      exact ⟨led, directory⟩
    · cases located
    · cases located

theorem write_ok (written : disk.write path bytes = .ok after) :
    ∃ place, disk.locate path = .ok place ∧ disk.entry? place.dropLast = some .directory ∧
      disk.entry? place ≠ some .directory ∧ after = disk.put place (some (.file bytes)) := by
  simp only [write, bind, Except.bind] at written
  split at written
  · cases written
  · rename_i place located
    obtain ⟨led, parent⟩ := locateNew_ok located
    split at written
    · cases written
    · rename_i free
      cases written
      exact ⟨place, led, parent, free, rfl⟩

/-- Whether a file can be written is no question of its bytes. -/
theorem exists_write (written : disk.write path bytes = .ok after) (others : ByteArray) :
    ∃ between, disk.write path others = .ok between := by
  simp only [write, bind, Except.bind] at written ⊢
  cases located : disk.locateNew path with
  | error e =>
    rw [located] at written
    cases written
  | ok place =>
    rw [located] at written
    dsimp only at written ⊢
    split at written
    · cases written
    · exact ⟨_, rfl⟩

theorem remove_ok (removed : disk.remove path = .ok after) :
    ∃ place its, disk.locate path = .ok place ∧ disk.entry? place = some (.file its) ∧
      after = disk.put place none := by
  simp only [remove, bind, Except.bind] at removed
  split at removed
  · cases removed
  · rename_i place located
    split at removed
    · rename_i its file
      cases removed
      exact ⟨place, its, located, file, rfl⟩
    · cases removed
    · cases removed

theorem remove_of_file (file : disk.find? path = some (.file bytes)) : ∃ after, disk.remove path = .ok after := by
  simp only [remove, find?, bind, Except.bind] at file ⊢
  cases located : disk.locate path with
  | error e =>
    rw [located] at file
    cases file
  | ok place =>
    rw [located] at file
    dsimp only at file ⊢
    rw [file]
    exact ⟨_, rfl⟩

/-- A file that is renamed takes a free place or that of a file. -/
theorem rename_ok (renamed : disk.rename old new = .ok after) {source : Place}
    (located : disk.locate old = .ok source) (file : disk.entry? source = some (.file bytes)) :
    ∃ target, disk.locate new = .ok target ∧ disk.entry? target.dropLast = some .directory ∧
      disk.entry? target ≠ some .directory ∧ (source ≠ target → after = disk.move source target) := by
  simp only [rename, located, bind, Except.bind] at renamed
  split at renamed
  · cases renamed
  · rename_i target goal
    obtain ⟨led, parent⟩ := locateNew_ok goal
    rw [file] at renamed
    cases there : disk.entry? target with
    | none =>
      rw [there] at renamed
      cases renamed
      exact ⟨target, led, parent, by simp [there], fun _ => rfl⟩
    | some its =>
      rw [there] at renamed
      dsimp only at renamed
      by_cases same : source = target
      · subst same
        exact ⟨source, led, parent, by simp [file], fun differs => absurd rfl differs⟩
      · rw [if_neg same, replace, file, there] at renamed
        cases its with
        | directory => cases renamed
        | file its =>
          cases renamed
          exact ⟨target, led, parent, by simp [there], fun _ => rfl⟩

end CloudBalance.Disk
