import CloudBalance.Proofs.Ledger.Lock
import CloudBalance.Proofs.Ledger.Reload
import CloudBalance.Proofs.Ledger.Saving

/-!
# The lock where files may fail

Main statements: whoever does not get the lock has changed no file, but where its file could not be written a part of it
may be left, and whoever has the lock can give it back, also where the ledger could not be read or saved meanwhile, as
long as files can be removed.
-/

namespace CloudBalance.Ledger.Store

open Disk (Entry)
open Time (Instant)

variable {store : Store} {disk after : Disk} {contents its : String → Option Entry} {operation name : String}
  {lock : Lock} {period : Instant → Prop} {events : List Local.Event}

/-- The directory of the project is there, and at the place of the lock lies no directory. -/
def Guarded (store : Store) (disk : Disk) : Prop :=
  ∃ contents, store.Holds disk contents ∧ contents "lock.json" ≠ some .directory

/-- No lock is there. -/
def Free (store : Store) (disk : Disk) : Prop :=
  disk.find? store.lockPath = none

/-! ## Taking the lock -/

theorem within_holderName_of {scope : Program.Scope Local} (asks : ∀ name, scope.asks (.environmentVariable name)) :
    holderName.Within scope := by
  refine .bind (Program.within_perform.mpr (asks _)) fun name => ?_
  cases name with
  | some name => trivial
  | none => exact .bind (Program.within_perform.mpr (asks _)) fun _ => trivial

theorem within_holderName : holderName.Within Local.looking :=
  within_holderName_of fun _ => trivial

theorem within_checkLock : store.checkLock.run.Within Local.looking := by
  refine Attempt.within_bind (Attempt.within_lift Local.within_exists?) fun there => ?_
  cases there with
  | false => trivial
  | true =>
    refine Attempt.within_bind (Attempt.within_adapt Local.within_readText) fun text => ?_
    cases Json.decode? Lock.ofJson? text with
    | none => trivial
    | some held =>
      refine Attempt.within_bind (Attempt.within_lift Local.within_now) fun now => ?_
      split
      · exact Attempt.within_lift Local.within_note
      · trivial

/-- What is done until it is known what the file will say. -/
def prepareLock (store : Store) (operation : String) : Attempt Local CloudError Lock := do
  store.ensureDirectory
  store.checkLock
  return ⟨← holderName, operation, ← Local.processId, ← Local.now⟩

/-- What is done once it is known what the file will say. -/
def writeLock (store : Store) (lock : Lock) : Attempt Local CloudError Unit := do
  (Local.write store.lockPath lock.bytes).attempt .files
  Local.note .debug .ledger ("Acquired state lock for `" ++ lock.operation ++ "`")

theorem acquireLock_eq (store : Store) (operation : String) :
    store.acquireLock operation = store.prepareLock operation >>= store.writeLock := by
  simp only [prepareLock, bind_assoc, pure_bind]
  rfl

/-- Nothing is written until it is known what the file will say, and by then the directory of the project is there. -/
theorem throughout_prepareLock (placed : store.Placed disk) (operation : String) :
    (store.prepareLock operation).run.Throughout (Local.falteringDuring period)
      (fun made => store.Placed made ∧ store.SameFiles disk made) disk fun result after => ∀ lock, result = .ok lock →
        lock.operation = operation ∧ period lock.acquiredAt ∧ Instant.IsYear lock.acquiredAt.date.year ∧
        ∃ contents, store.Holds after contents := by
  rw [prepareLock, Attempt.throughout_bind]
  refine ((throughout_ensureDirectory_placed placed).narrow Local.faltering_of_falteringDuring).mono ?_
  intro result made here ensured
  cases result with
  | error e => exact nofun
  | ok _ =>
    have looks {α : Type} {p : Program Local α} (within : p.Within Local.looking) :
        p.Throughout (Local.falteringDuring period) (fun made => store.Placed made ∧ store.SameFiles disk made) made
          fun _ after => after = made :=
      (Local.throughout_looking within here).narrow Local.faltering_of_falteringDuring
    dsimp only
    rw [Attempt.throughout_bind]
    refine (looks within_checkLock).mono ?_
    rintro result made _ rfl
    cases result with
    | error e => exact nofun
    | ok _ =>
      dsimp only
      rw [Attempt.throughout_bind, Attempt.throughout_lift]
      refine (looks within_holderName).mono ?_
      rintro holder made _ rfl
      dsimp only
      rw [Attempt.throughout_bind, Attempt.throughout_lift]
      refine (looks Local.within_processId).mono ?_
      rintro id made _ rfl
      dsimp only
      rw [Attempt.throughout_bind, Attempt.throughout_lift]
      refine Local.throughout_now_during here fun now shown year => ⟨here, ?_⟩
      rintro lock ⟨⟩
      exact ⟨rfl, shown, year, ensured rfl⟩

theorem ensures_prepareLock_placed (placed : store.Placed disk) (operation : String) :
    (store.prepareLock operation).run.Ensures Local.faltering disk fun result after =>
      store.SameFiles disk after ∧ ∀ lock, result = .ok lock →
        lock.operation = operation ∧ ∃ contents, store.Holds after contents := by
  have throughout : (store.prepareLock operation).run.Throughout (Local.falteringDuring fun _ => True) _ disk _ :=
    throughout_prepareLock placed operation
  refine (throughout.ensures.narrow Local.falteringDuring_of_faltering).mono ?_
  rintro result after ⟨⟨_, same⟩, known⟩
  refine ⟨same, fun lock prepared => ?_⟩
  obtain ⟨named, _, _, holds⟩ := known lock prepared
  exact ⟨named, holds⟩

/-- The file is written, or it is not and no more than a part of it is left. -/
theorem runs_writeLock {result : Option (Except CloudError Unit)}
    (run : (store.writeLock lock).run.Runs Local.faltering disk events result after) :
    result = some (.ok ()) ∧ disk.write store.lockPath lock.bytes = .ok after ∨
    ∃ e, events = [⟨.write store.lockPath lock.bytes, .error e⟩] ∧ result = some (.error (.files e)) ∧
      (after = disk ∨ ∃ part more, lock.bytes = part ++ more ∧ disk.write store.lockPath part = .ok after) := by
  rw [writeLock] at run
  rcases Attempt.runs_bind.mp run with ⟨_, _, between, _, writes, notes, _⟩ | ⟨_, writes, rfl⟩ | ⟨writes, _⟩
  · obtain ⟨value, wrote, ok⟩ := Program.runs_map.mp writes
    obtain ⟨answer, answered, _, rfl⟩ := Program.runs_perform.mp wrote
    obtain ⟨_, noted, rfl⟩ := Attempt.runs_lift.mp notes
    obtain ⟨_, same, _, rfl⟩ := Program.runs_perform.mp noted
    cases answer with
    | error e => cases ok
    | ok _ =>
      obtain rfl : after = between := same
      rcases answered with (⟨written, _⟩ | ⟨⟨_, impossible⟩, _⟩) | ⟨⟨_, impossible⟩, _⟩
      · exact .inl ⟨rfl, written⟩
      · cases impossible
      · cases impossible
  · obtain ⟨value, wrote, failed⟩ := Program.runs_map.mp writes
    obtain ⟨answer, answered, rfl, rfl⟩ := Program.runs_perform.mp wrote
    cases answer with
    | ok _ => cases failed
    | error e =>
      cases failed
      refine .inr ⟨e, rfl, rfl, ?_⟩
      rcases answered with (⟨_, impossible⟩ | ⟨_, same⟩) | ⟨_, part, more, begun, written⟩
      · cases impossible
      · exact .inl same
      · exact .inr ⟨part, more, begun, written⟩
  · obtain ⟨_, wrote, halted⟩ := Program.runs_map.mp writes
    obtain ⟨_, _, _, rfl⟩ := Program.runs_perform.mp wrote
    cases halted

theorem guarded_of_taken (placed : store.Placed disk)
    (run : (store.acquireLock operation).run.Runs Local.faltering disk events (some (.ok ())) after) :
    store.Guarded after := by
  rw [acquireLock_eq] at run
  obtain ⟨_, lock, made, _, prepares, writes, _⟩ := Attempt.runs_bind_ok.mp run
  obtain ⟨_, known⟩ := ensures_prepareLock_placed placed operation _ _ _ prepares
  obtain ⟨_, contents, holds⟩ := known lock rfl
  rcases runs_writeLock writes with ⟨_, written⟩ | ⟨_, _, impossible, _⟩
  · exact ⟨_, holds.write_file isName_lock written, by simp⟩
  · cases impossible

/-- What is left of the files of the project where the lock is not to be had. -/
inductive Spares (store : Store) (operation : String) (disk : Disk) (locking : List Local.Event) (after : Disk) :
    Prop where
  /-- Each is as it was. -/
  | all (same : ∀ path ∈ [store.lockPath, store.ledgerPath, store.backupPath], after.find? path = disk.find? path)
  /-- What failed was to write the file of the lock. A part of what was to be written is left of it, and the others are
  as they were. -/
  | torn {looked : List Local.Event} {lock : Lock} {part more : ByteArray} {e : FileError}
      (last : locking = looked ++ [⟨.write store.lockPath lock.bytes, .error e⟩])
      (named : lock.operation = operation) (begun : lock.bytes = part ++ more)
      (left : after.find? store.lockPath = some (.file part))
      (others : ∀ path ∈ [store.ledgerPath, store.backupPath], after.find? path = disk.find? path)

theorem spares_of_same (same : store.SameFiles disk after) : store.Spares operation disk events after := by
  refine .all ?_
  simp only [List.mem_cons, List.not_mem_nil, or_false]
  rintro path (rfl | rfl | rfl)
  · exact same _ isName_lock
  · exact same _ isName_ledger
  · exact same _ isName_backup

theorem spares_of_refused {e : CloudError} (placed : store.Placed disk)
    (run : (store.acquireLock operation).run.Runs Local.faltering disk events (some (.error e)) after) :
    store.Spares operation disk events after := by
  have prepared := ensures_prepareLock_placed placed operation
  rw [acquireLock_eq] at run
  rcases Attempt.runs_bind.mp run with ⟨looked, lock, made, _, prepares, writes, rfl⟩ | ⟨_, fails, _⟩ | ⟨_, impossible⟩
  · obtain ⟨same, known⟩ := prepared _ _ _ prepares
    obtain ⟨named, contents, holds⟩ := known lock rfl
    rcases runs_writeLock writes with ⟨impossible, _⟩ | ⟨f, rfl, _, rfl | ⟨part, more, begun, written⟩⟩
    · cases impossible
    · exact spares_of_same same
    · refine .torn rfl named begun (Disk.find?_write written) ?_
      have lies := holds.write_file isName_lock written
      have beside : ∀ name, Path.IsName name → name ≠ "lock.json" →
          after.find? (Path.join store.directory name) = disk.find? (Path.join store.directory name) := by
        intro name isName other
        rw [lies.find?_file isName, Function.update_of_ne other, ← holds.find?_file isName, same name isName]
      simp only [List.mem_cons, List.not_mem_nil, or_false]
      rintro path (rfl | rfl)
      · exact beside _ isName_ledger (by decide)
      · exact beside _ isName_backup (by decide)
  · exact spares_of_same (prepared _ _ _ fails).1
  · cases impossible

/-- Whoever is given the lock might as well have failed to write its file and have left any part of it. -/
theorem exists_run_torn (placed : store.Placed disk)
    (run : (store.acquireLock operation).run.Runs Local.steady disk events (some (.ok ())) after) :
    ∃ (looked : List Local.Event) (lock : Lock), lock.operation = operation ∧
      ∀ part more e, lock.bytes = part ++ more → ∃ left,
        (store.acquireLock operation).run.Runs Local.steady disk
          (looked ++ [⟨.write store.lockPath lock.bytes, .error e⟩]) (some (.error (.files e))) left ∧
        left.find? store.lockPath = some (.file part) := by
  rw [acquireLock_eq] at run ⊢
  obtain ⟨looked, lock, made, _, prepares, writes, _⟩ := Attempt.runs_bind_ok.mp run
  obtain ⟨_, known⟩ := ensures_prepareLock_placed placed operation _ _ _ (prepares.mono Local.faltering_of_steady)
  rcases runs_writeLock (writes.mono Local.faltering_of_steady) with ⟨_, written⟩ | ⟨_, _, impossible, _⟩
  · refine ⟨looked, lock, (known lock rfl).1, fun part more e begun => ?_⟩
    obtain ⟨left, torn⟩ := Disk.exists_write written part
    have refused : (Local.write store.lockPath lock.bytes).Runs Local.steady made
        [⟨.write store.lockPath lock.bytes, .error e⟩] (some (.error e)) left :=
      Program.runs_perform.mpr ⟨.error e, .inr ⟨⟨e, rfl⟩, part, more, begun, torn⟩, rfl, rfl⟩
    have fails : (store.writeLock lock).run.Runs Local.steady made [⟨.write store.lockPath lock.bytes, .error e⟩]
        (some (.error (.files e))) left :=
      Attempt.runs_bind.mpr (.inr (.inl ⟨_, Program.runs_map.mpr ⟨_, refused, rfl⟩, rfl⟩))
    exact ⟨left, Attempt.runs_bind.mpr (.inl ⟨_, _, _, _, prepares, fails, rfl⟩), Disk.find?_write torn⟩
  · cases impossible

/-! ## Working under the lock -/

theorem Stage.other {text : ByteArray} (stage : Stage contents text its) (first : name ≠ "state.json")
    (second : name ≠ "state.json.backup") : its name = contents name := by
  have beside : kept contents name = contents name := by
    rw [kept]
    split
    · rw [Function.update_of_ne first, Function.update_of_ne second]
    · rfl
  cases stage with
  | untouched => rfl
  | cleared => exact Function.update_of_ne second _ _
  | aside => exact beside
  | written => exact (Function.update_of_ne first _ _).trans beside

/-- Saving leaves the lock alone, also where it breaks off. -/
theorem ensures_save_guarded (guarded : store.Guarded disk) (plain : disk.find? store.ledgerPath ≠ some .directory)
    (ledger : Ledger) :
    (store.save ledger).run.Ensures Local.faltering disk fun _ after => store.Guarded after := by
  obtain ⟨contents, holds, file⟩ := guarded
  rw [ledgerPath, holds.find?_file isName_ledger] at plain
  refine (throughout_save holds plain ledger).ensures.mono ?_
  rintro _ after ⟨⟨its, lies, stage⟩, _⟩
  exact ⟨its, lies, by rwa [stage.other (by decide) (by decide)]⟩

/-! ## Giving the lock back -/

/-- The lock is there and can be removed, or it is not there. -/
theorem Guarded.cases (guarded : store.Guarded disk) :
    (disk.exists? store.lockPath = true ∧
      ∃ after, disk.remove store.lockPath = .ok after ∧ store.Free after) ∨
    (disk.exists? store.lockPath = false ∧ store.Free disk) := by
  obtain ⟨contents, holds, plain⟩ := guarded
  have found : disk.find? store.lockPath = contents "lock.json" := holds.find?_file isName_lock
  rw [Disk.exists?, Free, found]
  cases there : contents "lock.json" with
  | none => exact .inr ⟨rfl, rfl⟩
  | some entry =>
    cases entry with
    | directory => exact absurd there plain
    | file bytes =>
      obtain ⟨after, removed⟩ := Disk.remove_of_file (found.trans there)
      have lies := (holds.remove_file isName_lock removed).find?_file isName_lock
      exact .inl ⟨rfl, after, removed, lies.trans (Function.update_self _ _ _)⟩

theorem ensures_releaseLock_guarded (guarded : store.Guarded disk) :
    store.releaseLock.run.Ensures Local.steady disk fun result after =>
      result = .ok () ∧ store.Free after := by
  rw [releaseLock, Attempt.ensures_bind, Attempt.ensures_lift]
  refine Local.ensures_exists?_steady ?_
  rcases guarded.cases with ⟨there, made, removed, free⟩ | ⟨there, free⟩
  · rw [there]
    dsimp only
    rw [if_pos rfl, Attempt.ensures_bind, Attempt.ensures_attempt]
    refine Local.ensures_remove_steady removed ?_
    dsimp only [Except.mapError]
    rw [Attempt.ensures_lift]
    refine (Local.ensures_looking_steady Local.within_note).mono ?_
    rintro _ _ rfl
    exact ⟨rfl, free⟩
  · rw [there]
    exact Attempt.ensures_pure.mpr ⟨rfl, free⟩

theorem ensures_dropLock_guarded (guarded : store.Guarded disk) :
    store.dropLock.Ensures Local.steady disk fun _ after => store.Free after := by
  rw [dropLock, Program.ensures_bind]
  refine Local.ensures_exists?_steady ?_
  rcases guarded.cases with ⟨there, made, removed, free⟩ | ⟨there, free⟩
  · rw [there, if_pos rfl, Program.ensures_bind]
    exact Local.ensures_remove_steady removed (Program.ensures_done.mpr free)
  · rw [there]
    exact Program.ensures_done.mpr free

end CloudBalance.Ledger.Store
