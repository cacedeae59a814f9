import CloudBalance.Proofs.Files.Machine
import CloudBalance.Proofs.Ledger.Entries
import CloudBalance.Proofs.Ledger.Project

/-!
# Reading and writing the ledger of a project

What is done with the files of a project on a machine on which files work. Main statements: what is
written is read again, the file that was there before is kept beside it, and the lock touches no file but
its own.
-/

namespace CloudBalance.Ledger.Store

open Disk (Entry)
open Time (Instant)

variable {store : Store} {disk : Disk} {contents : String → Option Entry}

theorem isName_ledger : Path.IsName "state.json" :=
  ⟨by decide, by decide, by decide⟩

theorem isName_backup : Path.IsName "state.json.backup" :=
  ⟨by decide, by decide, by decide⟩

theorem isName_lock : Path.IsName "lock.json" :=
  ⟨by decide, by decide, by decide⟩

theorem ensures_ensureDirectory (holds : store.Holds disk contents) :
    store.ensureDirectory.run.Ensures Local.onDisk disk fun result after =>
      result = .ok () ∧ store.Holds after contents := by
  simp only [ensureDirectory, Attempt.ensures_bind, Attempt.ensures_lift, Local.ensures_exists?]
  split
  · simp only [Attempt.ensures_bind, Attempt.ensures_attempt, Attempt.ensures_lift,
      Local.ensures_makeDirectories, Local.ensures_note, Except.mapError, true_and]
    intro after made
    exact holds.makeDirectory made
  · exact Attempt.ensures_pure.mpr ⟨rfl, holds⟩

/-! ## Reading -/

/-- The ledger that the bytes of a file hold. -/
def ledgerOfBytes (bytes : ByteArray) : Except CloudError Ledger :=
  match Local.textOf bytes with
  | .ok text => ledgerOfText text
  | .error e => .error (.files e)

/-- What may come of reading the ledger, by what lies at its place. -/
inductive Loads : Option Entry → Except CloudError Ledger → Prop where
  | absent {now : Instant} (held : Instant.IsYear now.date.year) : Loads none (.ok (Ledger.new now))
  | stored (bytes : ByteArray) : Loads (some (.file bytes)) (ledgerOfBytes bytes)

theorem Loads.file {entry : Option Entry} {result : Except CloudError Ledger} (loaded : Loads entry result) :
    entry ≠ some .directory := by
  cases loaded with
  | absent => simp
  | stored => simp

/-- Only the time of a new ledger is left open. -/
theorem Loads.unique {entry : Option Entry} {first second : Except CloudError Ledger}
    (loaded : Loads entry first) (again : Loads entry second) :
    first.map (·.entries) = second.map (·.entries) := by
  cases loaded with
  | absent =>
    cases again
    rfl
  | stored =>
    cases again
    rfl

theorem ensures_load_found :
    store.load.run.Ensures Local.onDisk disk fun result after =>
      Loads (disk.find? store.ledgerPath) result ∧ after = disk := by
  simp only [load, Attempt.ensures_bind, Attempt.ensures_lift, Local.ensures_exists?]
  split
  · simp only [Attempt.ensures_bind, Attempt.ensures_attempt, Local.ensures_readText]
    intro bytes read
    have loaded := Loads.stored bytes
    rw [Disk.read_ok.mp read]
    rw [ledgerOfBytes] at loaded
    cases written : Local.textOf bytes with
    | error e =>
      rw [written] at loaded
      exact ⟨loaded, trivial⟩
    | ok text =>
      rw [written] at loaded
      simp only [Except.mapError, Attempt.ensures_known]
      cases known : ledgerOfText text with
      | error e => exact ⟨known ▸ loaded, trivial⟩
      | ok ledger =>
        simp only [Attempt.ensures_lift, Local.ensures_note, Attempt.ensures_pure]
        exact ⟨known ▸ loaded, trivial⟩
  · rename_i missing
    rw [Disk.exists?, Option.not_isSome_iff_eq_none] at missing
    simp only [Attempt.ensures_bind, Attempt.ensures_lift, Local.ensures_note, Local.ensures_now,
      Attempt.ensures_pure, missing]
    exact fun now held => ⟨.absent held, trivial⟩

theorem ensures_load (holds : store.Holds disk contents) :
    store.load.run.Ensures Local.onDisk disk fun result after =>
      Loads (contents "state.json") result ∧ after = disk := by
  rw [← holds.find?_file isName_ledger]
  exact ensures_load_found

/-- What is read can be stored, and its form is known. -/
structure Sane (ledger : Ledger) : Prop where
  known : ledger.version ≤ currentVersion
  storable : Storable ledger.entries

theorem sane_new (now : Instant) : Sane (Ledger.new now) :=
  ⟨UInt32.le_refl _, storable_nil⟩

theorem Sane.insert {ledger : Ledger} (sane : Sane ledger) {record : Record} (held : record.IsStorable)
    (now : Instant) : Sane (ledger.insert record now) :=
  ⟨sane.known, sane.storable.putEntry held⟩

theorem Sane.without {ledger : Ledger} (sane : Sane ledger) (found : Record) (now : Instant) :
    Sane (ledger.without found now) :=
  ⟨sane.known, sane.storable.filter _⟩

theorem Sane.reorder {ledger : Ledger} {entries : List (String × Record)} (sane : Sane ledger)
    (same : entries.Perm ledger.entries) : Sane { ledger with entries } where
  known := sane.known
  storable :=
    { once := (same.map _).nodup_iff.mpr sane.storable.once
      held := fun entry member => sane.storable.held entry (same.mem_iff.mp member) }

theorem Loads.sane {entry : Option Entry} {ledger : Ledger} (loaded : Loads entry (.ok ledger)) :
    Sane ledger := by
  generalize result : Except.ok ledger = its at loaded
  cases loaded with
  | absent =>
    cases result
    exact sane_new _
  | stored bytes =>
    rw [ledgerOfBytes] at result
    split at result
    · rename_i text _
      rw [ledgerOfText] at result
      split at result
      · cases result
      · rename_i found decoded
        split at result
        · cases result
        · rename_i known
          cases result
          obtain ⟨value, _, read⟩ := Option.bind_eq_some_iff.mp decoded
          exact ⟨UInt32.not_lt.mp known, storable_of_ofJson? read⟩
    · cases result

theorem ledgerOfBytes_encode {ledger : Ledger} (sane : Sane ledger)
    (updated : Instant.IsYear ledger.updatedAt.date.year) :
    ledgerOfBytes (Text.encode ledger.toJson.pretty) = .ok ledger := by
  rw [ledgerOfBytes, Local.textOf, Text.decode?_encode]
  change ledgerOfText ledger.toJson.pretty = _
  rw [ledgerOfText, decode?_pretty updated sane.storable]
  exact if_neg (UInt32.not_lt.mpr sane.known)

/-- Whoever reads the ledger finds these entries. -/
def Remembers (store : Store) (disk : Disk) (entries : List (String × Record)) : Prop :=
  ∃ events ledger, store.load.run.Runs Local.onDisk disk events (some (.ok ledger)) disk ∧
    ledger.entries = entries

theorem exists_run_load_found {result : Except CloudError Ledger}
    (loaded : Loads (disk.find? store.ledgerPath) result) :
    ∃ events, store.load.run.Runs Local.onDisk disk events (some result) disk := by
  -- every question of the reading has an answer, so not all runs can end otherwise
  have possible : ¬ store.load.run.Ensures Local.onDisk disk fun other after =>
      ¬ (other = result ∧ after = disk) := by
    simp only [load, Attempt.ensures_bind, Attempt.ensures_lift, Local.ensures_exists?]
    rw [Disk.exists?]
    generalize lies : disk.find? store.ledgerPath = entry at loaded
    cases loaded with
    | absent held =>
      simp only [Option.isSome_none, Bool.false_eq_true, if_false, Attempt.ensures_bind,
        Attempt.ensures_lift, Local.ensures_note, Local.ensures_now, Attempt.ensures_pure, and_true]
      exact fun never => never _ held rfl
    | stored bytes =>
      simp only [Option.isSome_some, if_true, Attempt.ensures_bind, Attempt.ensures_attempt,
        Local.ensures_readText]
      intro never
      have seen := never bytes (Disk.read_ok.mpr lies)
      rw [ledgerOfBytes] at seen
      cases written : Local.textOf bytes with
      | error e => simp [written, Except.mapError] at seen
      | ok text =>
        simp only [written, Except.mapError, Attempt.ensures_known] at seen
        cases known : ledgerOfText text with
        | error e => simp [known] at seen
        | ok ledger =>
          simp [known] at seen
  obtain ⟨events, _, _, run, rfl, rfl⟩ := Program.exists_run possible
  exact ⟨events, run⟩

theorem exists_run_load (holds : store.Holds disk contents) {ledger : Ledger}
    (loaded : Loads (contents "state.json") (.ok ledger)) :
    ∃ events, store.load.run.Runs Local.onDisk disk events (some (.ok ledger)) disk := by
  rw [← holds.find?_file isName_ledger] at loaded
  exact exists_run_load_found loaded

/-- What is remembered is what lies at the place of the ledger. -/
theorem remembers_iff (holds : store.Holds disk contents) {entries : List (String × Record)} :
    store.Remembers disk entries ↔
      ∃ ledger, Loads (contents "state.json") (.ok ledger) ∧ ledger.entries = entries := by
  constructor
  · rintro ⟨events, ledger, run, listed⟩
    exact ⟨ledger, (ensures_load holds _ _ _ run).1, listed⟩
  · rintro ⟨ledger, loaded, listed⟩
    obtain ⟨events, run⟩ := exists_run_load holds loaded
    exact ⟨events, ledger, run, listed⟩

theorem remembers_nil (holds : store.Holds disk contents) (absent : contents "state.json" = none) :
    store.Remembers disk [] := by
  rw [remembers_iff holds, absent]
  exact ⟨_, .absent Instant.isYear_default, rfl⟩

theorem loads_encode {ledger : Ledger} (sane : Sane ledger)
    (updated : Instant.IsYear ledger.updatedAt.date.year) :
    Loads (some (.file (Text.encode ledger.toJson.pretty))) (.ok ledger) := by
  rw [← ledgerOfBytes_encode sane updated]
  exact .stored _

/-! ## Writing -/

/-- What lies in the directory after the file of the ledger is moved aside. -/
def kept (contents : String → Option Entry) : String → Option Entry :=
  if (contents "state.json").isSome then
    Function.update (Function.update contents "state.json.backup" (contents "state.json")) "state.json" none
  else contents

theorem kept_file {bytes : ByteArray} (file : contents "state.json" = some (.file bytes)) :
    kept contents = Function.update
      (Function.update contents "state.json.backup" (contents "state.json")) "state.json" none := by
  rw [kept, if_pos (by simp [file])]

/-- The copy that is removed before is the one that would be replaced. -/
theorem kept_cleared {bytes : ByteArray} (file : contents "state.json" = some (.file bytes)) :
    kept (Function.update contents "state.json.backup" none) = kept contents := by
  rw [kept_file file, kept_file (by rw [Function.update_of_ne (by decide), file]), Function.update_idem,
    Function.update_of_ne (by decide)]

theorem ensures_setAside (holds : store.Holds disk contents) {bytes : ByteArray}
    (file : contents "state.json" = some (.file bytes)) :
    ((Local.rename store.ledgerPath store.backupPath).attempt CloudError.files >>= fun _ =>
      liftM (Local.note .debug .ledger "Created state backup") : Attempt Local CloudError Unit).run.Ensures
        Local.onDisk disk fun result after => result = .ok () ∧ store.Holds after (kept contents) := by
  simp only [Attempt.ensures_bind, Attempt.ensures_attempt, Attempt.ensures_lift, Local.ensures_rename,
    Local.ensures_note, Except.mapError, true_and]
  intro after renamed
  rw [kept_file file]
  exact holds.rename_file isName_ledger isName_backup (by decide) file renamed

theorem ensures_keepBackup (holds : store.Holds disk contents)
    (file : contents "state.json" ≠ some .directory) :
    store.keepBackup.run.Ensures Local.onDisk disk fun result after =>
      result = .ok () ∧ store.Holds after (kept contents) := by
  simp only [keepBackup, Attempt.ensures_bind, Attempt.ensures_lift, Local.ensures_exists?]
  rw [show disk.exists? store.ledgerPath = _ from holds.exists?_file isName_ledger]
  cases there : contents "state.json" with
  | none =>
    rw [kept, there]
    exact Attempt.ensures_pure.mpr ⟨rfl, holds⟩
  | some entry =>
    cases entry with
    | directory => exact absurd there file
    | file bytes =>
      simp only [Option.isSome_some, if_true, Attempt.ensures_bind, Attempt.ensures_lift,
        Local.ensures_exists?]
      split
      · rw [Attempt.ensures_bind]
        simp only [Attempt.ensures_attempt, Local.ensures_remove, Except.mapError]
        intro after removed
        have gone := holds.remove_file isName_backup removed
        rw [← kept_cleared there]
        exact ensures_setAside gone (by rw [Function.update_of_ne (by decide), there])
      · exact ensures_setAside holds there

theorem ensures_save (holds : store.Holds disk contents) (file : contents "state.json" ≠ some .directory)
    (ledger : Ledger) :
    (store.save ledger).run.Ensures Local.onDisk disk fun result after =>
      result = .ok () ∧ store.Holds after (Function.update (kept contents) "state.json"
        (some (.file (Text.encode ledger.toJson.pretty)))) := by
  rw [save, Attempt.ensures_bind]
  refine (ensures_ensureDirectory holds).mono ?_
  rintro _ made ⟨rfl, holds⟩
  dsimp only
  rw [Attempt.ensures_bind]
  refine (ensures_keepBackup holds file).mono ?_
  rintro _ aside ⟨rfl, holds⟩
  simp only [Attempt.ensures_bind, Attempt.ensures_attempt, Attempt.ensures_lift, Local.ensures_write,
    Local.ensures_note, Except.mapError, true_and]
  intro after written
  exact holds.write_file isName_ledger written

/-! ## The lock -/

/-- Nothing differs but the lock. -/
def LockOnly (before after : String → Option Entry) : Prop :=
  ∀ name, name ≠ "lock.json" → after name = before name

theorem LockOnly.trans {before between after : String → Option Entry} (first : LockOnly before between)
    (second : LockOnly between after) : LockOnly before after :=
  fun name differs => (second name differs).trans (first name differs)

theorem LockOnly.ledger {before after : String → Option Entry} (same : LockOnly before after) :
    after "state.json" = before "state.json" :=
  same "state.json" (by decide)

theorem LockOnly.refl (contents : String → Option Entry) : LockOnly contents contents :=
  fun _ _ => rfl

/-- The ledger and the copy beside it are unchanged to the byte. -/
theorem LockOnly.find?_eq {before after : String → Option Entry} {last : Disk} (same : LockOnly before after)
    (holds : store.Holds disk before) (lies : store.Holds last after) :
    last.find? store.ledgerPath = disk.find? store.ledgerPath ∧
      last.find? store.backupPath = disk.find? store.backupPath := by
  constructor
  · rw [ledgerPath, holds.find?_file isName_ledger, lies.find?_file isName_ledger]
    exact same _ (by decide)
  · rw [backupPath, holds.find?_file isName_backup, lies.find?_file isName_backup]
    exact same _ (by decide)

theorem lockOnly_update (entry : Option Entry) :
    LockOnly contents (Function.update contents "lock.json" entry) :=
  fun _ differs => Function.update_of_ne differs _ _

theorem ensures_checkLock (holds : store.Holds disk contents) :
    store.checkLock.run.Ensures Local.onDisk disk fun result after =>
      (contents "lock.json" = none → result = .ok ()) ∧ after = disk := by
  simp only [checkLock, Attempt.ensures_bind, Attempt.ensures_lift, Local.ensures_exists?]
  rw [show disk.exists? store.lockPath = _ from holds.exists?_file isName_lock]
  split
  · -- somebody has the lock, and it depends on the clock whether it is taken over
    rename_i held
    have taken : contents "lock.json" ≠ none := by
      rintro free
      rw [free] at held
      cases held
    simp only [Attempt.ensures_bind, Attempt.ensures_attempt, Local.ensures_readText]
    intro bytes _
    cases Local.textOf bytes with
    | error e => exact ⟨fun free => absurd free taken, trivial⟩
    | ok text =>
      simp only [Except.mapError]
      split
      · simp only [Attempt.ensures_bind, Attempt.ensures_lift, Local.ensures_now]
        intro now _
        split
        · simp
        · exact Attempt.ensures_throw.mpr ⟨fun free => absurd free taken, rfl⟩
      · exact Attempt.ensures_throw.mpr ⟨fun free => absurd free taken, rfl⟩
  · exact Attempt.ensures_pure.mpr ⟨fun _ => rfl, rfl⟩

theorem ensures_holderName : holderName.Ensures Local.onDisk disk fun _ after => after = disk := by
  simp only [holderName, Program.ensures_bind, Local.ensures_environment]
  intro value
  cases value with
  | some name => exact Program.ensures_done.mpr rfl
  | none => simp

theorem ensures_acquireLock (holds : store.Holds disk contents) (operation : String) :
    (store.acquireLock operation).run.Ensures Local.onDisk disk fun result after =>
      (contents "lock.json" = none → result = .ok ()) ∧
        ∃ its, store.Holds after its ∧ LockOnly contents its := by
  rw [acquireLock, Attempt.ensures_bind]
  refine (ensures_ensureDirectory holds).mono ?_
  rintro _ made ⟨rfl, holds⟩
  dsimp only
  rw [Attempt.ensures_bind]
  refine (ensures_checkLock holds).mono ?_
  rintro result _ ⟨checked, rfl⟩
  cases result with
  | error e =>
    exact ⟨fun free => (by cases checked free), contents, holds, fun _ _ => rfl⟩
  | ok _ =>
    rw [Attempt.ensures_bind, Attempt.ensures_lift]
    refine ensures_holderName.mono ?_
    rintro holder _ rfl
    simp only [Attempt.ensures_bind, Attempt.ensures_attempt, Attempt.ensures_lift, Local.ensures_write,
      Local.ensures_note, Local.ensures_now, Local.ensures_processId, Except.mapError]
    intro id now _ after written
    exact ⟨fun _ => trivial, _, holds.write_file isName_lock written, lockOnly_update _⟩

theorem ensures_releaseLock (holds : store.Holds disk contents) :
    store.releaseLock.run.Ensures Local.onDisk disk fun result after =>
      result = .ok () ∧ ∃ its, store.Holds after its ∧ LockOnly contents its := by
  simp only [releaseLock, Attempt.ensures_bind, Attempt.ensures_lift, Local.ensures_exists?]
  split
  · simp only [Attempt.ensures_bind, Attempt.ensures_attempt, Attempt.ensures_lift, Local.ensures_remove,
      Local.ensures_note, Except.mapError, true_and]
    intro after removed
    exact ⟨_, holds.remove_file isName_lock removed, lockOnly_update _⟩
  · exact Attempt.ensures_pure.mpr ⟨rfl, contents, holds, fun _ _ => rfl⟩

theorem ensures_dropLock (holds : store.Holds disk contents) :
    store.dropLock.Ensures Local.onDisk disk fun _ after =>
      ∃ its, store.Holds after its ∧ LockOnly contents its := by
  simp only [dropLock, Program.ensures_bind, Local.ensures_exists?]
  split
  · simp only [Program.ensures_bind, Local.ensures_remove]
    intro after removed
    exact Program.ensures_done.mpr ⟨_, holds.remove_file isName_lock removed, lockOnly_update _⟩
  · exact Program.ensures_done.mpr ⟨contents, holds, fun _ _ => rfl⟩

end CloudBalance.Ledger.Store
