import CloudBalance.Proofs.Json.Prefix
import CloudBalance.Proofs.Ledger.Decision
import CloudBalance.Proofs.Ledger.Takeover

/-!
# Locks that are left behind

A run may break off anywhere, also while it writes the file of the lock that it takes. Main statement: what it leaves is
what lay there before or a part of the text of its lock. Whoever wants the lock half an hour later is given it exactly
if what lies there is no file or the file of a lock; a part that is not the whole text is neither, and where such a part
is left nobody is given the lock any more.
-/

namespace CloudBalance.Ledger.Store

open Disk (Entry)
open Time (Instant)

variable {store : Store} {disk after : Disk} {entry : Option Entry} {operation : String} {now : Instant}
  {earlier later : Instant → Prop} {part more : ByteArray} {lock : Lock}

/-! ## Files that are no lock -/

/-- A file lies there that is read as no lock. -/
def Spoiled (entry : Option Entry) : Prop :=
  ∃ bytes, entry = some (.file bytes) ∧ ∀ lock : Lock, ¬ lock.IsWritten bytes

theorem spoiled_file {bytes : ByteArray} : Spoiled (some (.file bytes)) ↔ ∀ lock : Lock, ¬ lock.IsWritten bytes := by
  simp [Spoiled]

/-- Where the text of a lock breaks off it is that of no lock. -/
theorem not_isWritten_part (begun : lock.bytes = part ++ more) (short : more.size ≠ 0) (other : Lock) :
    ¬ other.IsWritten part := by
  rintro ⟨text, reads, decoded⟩
  rw [Local.textOf] at reads
  split at reads
  · rename_i text' read
    cases reads
    rw [Json.decode?, Json.parse?_torn lock.isPlain_toJson begun short read] at decoded
    cases decoded
  · cases reads

theorem spoiled_part_iff (year : Instant.IsYear lock.acquiredAt.date.year) (begun : lock.bytes = part ++ more) :
    Spoiled (some (.file part)) ↔ more.size ≠ 0 := by
  rw [spoiled_file]
  constructor
  · intro unread none
    rw [ByteArray.size_eq_zero_iff.mp none, ByteArray.append_empty] at begun
    exact unread lock (begun ▸ Lock.isWritten_bytes year)
  · exact not_isWritten_part begun

/-- Where each lock that can be read is too old, whoever wants it is refused for a spoiled file alone. -/
theorem Decides.ok_iff_not_spoiled {result : Except CloudError Unit} (decides : Decides now entry result)
    (late : ∀ bytes lock, entry = some (.file bytes) → Lock.IsWritten lock bytes →
      Lock.staleNanos ≤ now.nanosSince lock.acquiredAt) :
    result = .ok () ↔ ¬ Spoiled entry := by
  rcases entry with _ | bytes | _
  · cases decides
    simp [Spoiled]
  · rw [spoiled_file, not_forall_not]
    constructor
    · rintro rfl
      cases decides with
      | stale written => exact ⟨_, written⟩
    · rintro ⟨lock, written⟩
      rcases decides.of_isWritten written with ⟨_, given⟩ | ⟨young, _⟩
      · exact given
      · exact absurd (late bytes lock rfl written) (Int.not_le.mpr young)
  · cases decides

theorem Decides.refused_of_spoiled {result : Except CloudError Unit} (decides : Decides now entry result)
    (spoiled : Spoiled entry) : ∃ e, result = .error e := by
  obtain ⟨bytes, rfl, unread⟩ := spoiled
  cases decides with
  | stale written => exact absurd written (unread _)
  | held | malformed | unreadable => exact ⟨_, rfl⟩

/-! ## Where a run breaks off -/

/-- What is left at the place of the lock where a run breaks off that takes it in a period: what lay there before, or a
part of what it writes. -/
inductive Leftover (period : Instant → Prop) (operation : String) (before : Option Entry) : Option Entry → Prop where
  | untouched : Leftover period operation before before
  | written {lock : Lock} {part more : ByteArray} (named : lock.operation = operation) (since : period lock.acquiredAt)
      (year : Instant.IsYear lock.acquiredAt.date.year) (begun : lock.bytes = part ++ more) :
      Leftover period operation before (some (.file part))

/-- The project is at its place, and at that of the lock is what may be left. -/
def Left (store : Store) (period : Instant → Prop) (operation : String) (disk after : Disk) : Prop :=
  store.Placed after ∧ Leftover period operation (disk.find? store.lockPath) (after.find? store.lockPath)

theorem left_of_same (there : store.Placed after) (same : store.SameFiles disk after) :
    store.Left earlier operation disk after := by
  refine ⟨there, ?_⟩
  rw [show after.find? store.lockPath = disk.find? store.lockPath from same _ isName_lock]
  exact .untouched

theorem throughout_writeLock {contents : String → Option Entry} {before : Disk} (holds : store.Holds disk contents)
    (here : store.Left earlier operation before disk) (named : lock.operation = operation)
    (since : earlier lock.acquiredAt) (year : Instant.IsYear lock.acquiredAt.date.year) :
    (store.writeLock lock).run.Throughout Local.faltering (store.Left earlier operation before) disk
      fun _ _ => True := by
  have torn : ∀ part more after, lock.bytes = part ++ more → disk.write store.lockPath part = .ok after →
      store.Left earlier operation before after := by
    intro part more after begun written
    refine ⟨(holds.write_file isName_lock written).placed, ?_⟩
    rw [Disk.find?_write written]
    exact .written named since year begun
  rw [writeLock, Attempt.throughout_bind, Attempt.throughout_attempt]
  refine Local.throughout_write here (fun _ => trivial) (fun after written => ?_)
    fun _ part more after begun written => ⟨torn part more after begun written, trivial⟩
  have whole := torn _ .empty after ByteArray.append_empty.symm written
  exact ⟨whole, Attempt.throughout_lift.mpr (Local.throughout_note whole trivial)⟩

theorem throughout_acquireLock (placed : store.Placed disk) (operation : String) :
    (store.acquireLock operation).run.Throughout (Local.falteringDuring earlier) (store.Left earlier operation disk)
      disk fun _ _ => True := by
  rw [acquireLock_eq, Attempt.throughout_bind]
  refine ((throughout_prepareLock placed operation).mono fun result made kept prepared => ?_).weaken
    fun s kept => left_of_same kept.1 kept.2
  cases result with
  | error e => trivial
  | ok lock =>
    obtain ⟨named, shown, year, contents, holds⟩ := prepared lock rfl
    have writes := throughout_writeLock holds (left_of_same kept.1 kept.2) named shown year
    exact writes.narrow Local.faltering_of_falteringDuring

/-- Where the file is written, each part of it has been there. -/
theorem reaches_writeLock {own : UInt32 → Prop} {events : List Local.Event}
    (run : (store.writeLock lock).run.Runs (Local.asProcess own earlier) disk events (some (.ok ())) after) :
    after.find? store.lockPath = some (.file lock.bytes) ∧ ∀ part more, lock.bytes = part ++ more →
      ∃ between, (store.writeLock lock).run.Reaches (Local.falteringDuring earlier) disk between ∧
        between.find? store.lockPath = some (.file part) := by
  have written : (store.writeLock lock).run.Ensures (Local.asProcess own earlier) disk fun _ after =>
      disk.write store.lockPath lock.bytes = .ok after := by
    refine Local.ensures_asProcess (Local.ensures_during ?_)
    simp only [writeLock, Attempt.ensures_bind, Attempt.ensures_attempt, Attempt.ensures_lift, Local.ensures_write,
      Local.ensures_note, Except.mapError]
    exact fun _ => id
  have whole := written _ _ _ run
  refine ⟨Disk.find?_write whole, fun part more begun => ?_⟩
  obtain ⟨between, torn⟩ := Disk.exists_write whole part
  refine ⟨between, ?_, Disk.find?_write torn⟩
  exact Attempt.reaches_attempt_bind (.next (.inr ⟨⟨.notFound, rfl⟩, part, more, begun, torn⟩) (.here _ _)) _

/-- A run that is given the lock has come by each part of the text. -/
theorem exists_reaches_part {own : UInt32 → Prop} {events : List Local.Event} (placed : store.Placed disk)
    (run : (store.acquireLock operation).run.Runs (Local.asProcess own earlier) disk events (some (.ok ())) after) :
    ∃ lock : Lock, lock.operation = operation ∧ Instant.IsYear lock.acquiredAt.date.year ∧
      after.find? store.lockPath = some (.file lock.bytes) ∧ ∀ part more, lock.bytes = part ++ more →
        ∃ between, (store.acquireLock operation).run.Reaches (Local.falteringDuring earlier) disk between ∧
          between.find? store.lockPath = some (.file part) := by
  rw [acquireLock_eq] at run ⊢
  obtain ⟨_, lock, made, _, prepares, writes, _⟩ := Attempt.runs_bind_ok.mp run
  have prepared := prepares.mono Local.falteringDuring_of_asProcess
  obtain ⟨_, known⟩ := (throughout_prepareLock placed operation).ensures _ _ _ prepared
  obtain ⟨named, _, year, _⟩ := known lock rfl
  obtain ⟨lies, parts⟩ := reaches_writeLock writes
  refine ⟨lock, named, year, lies, fun part more begun => ?_⟩
  obtain ⟨between, reached, torn⟩ := parts part more begun
  exact ⟨between, Attempt.reaches_bind prepared reached, torn⟩

/-! ## Who comes later -/

/-- Others want the lock at any times, and all that happens besides leaves its file alone. -/
inductive Wanted (store : Store) : Disk → List (Option (Except CloudError Unit)) → Disk → Prop where
  | nil (disk : Disk) : Wanted store disk [] disk
  | wanted {disk between after : Disk} {operation : String} {events : List Local.Event}
      {result : Option (Except CloudError Unit)} {results : List (Option (Except CloudError Unit))}
      (run : (store.acquireLock operation).run.Runs Local.onDisk disk events result between)
      (later : Wanted store between results after) : Wanted store disk (result :: results) after
  | elsewhere {disk between after : Disk} {results : List (Option (Except CloudError Unit))}
      (placed : store.Placed between) (same : between.find? store.lockPath = disk.find? store.lockPath)
      (later : Wanted store between results after) : Wanted store disk results after

/-- Whoever wants the lock where its file is spoiled is refused, and the file stays as it is. -/
theorem refused_of_spoiled (placed : store.Placed disk) (spoiled : Spoiled (disk.find? store.lockPath))
    {events : List Local.Event} {result : Option (Except CloudError Unit)}
    (run : (store.acquireLock operation).run.Runs Local.onDisk disk events result after) :
    (∃ e, result = some (.error e)) ∧ store.Placed after ∧
      after.find? store.lockPath = disk.find? store.lockPath := by
  obtain ⟨outcome, rfl⟩ := within_acquireLock.returns not_false run
  have anytime : ∃ now : Instant, (fun _ => True) now := ⟨default, trivial⟩
  have run := run.mono fun answered => Local.asProcess_of_during (Local.during_of_onDisk answered)
  obtain ⟨⟨now, _, decides⟩, its, holds, _, _, leaves⟩ := ensures_acquireLock_during anytime placed operation _ _ _ run
  obtain ⟨e, rfl⟩ := decides.refused_of_spoiled spoiled
  exact ⟨⟨e, rfl⟩, holds.placed, (holds.find?_file isName_lock).trans leaves.eq_of_refused⟩

theorem Wanted.refused {last : Disk} {results : List (Option (Except CloudError Unit))}
    (wanted : store.Wanted disk results last) (placed : store.Placed disk)
    (spoiled : Spoiled (disk.find? store.lockPath)) : ∀ result ∈ results, ∃ e, result = some (.error e) := by
  -- each that is refused leaves the spoiled file to the next one
  induction wanted with
  | nil => exact List.forall_mem_nil _
  | wanted run _ ih =>
    obtain ⟨refused, placed, same⟩ := refused_of_spoiled placed spoiled run
    exact List.forall_mem_cons.mpr ⟨refused, ih placed (by rwa [same])⟩
  | elsewhere there same _ ih => exact ih there (by rwa [same])

/-- The directory of the project is there, and a file can be written at the place of the lock. -/
structure Ready (store : Store) (disk : Disk) : Prop where
  there : disk.exists? store.directory = true
  writable : ∃ made, disk.write store.lockPath .empty = .ok made

section
variable {own : UInt32 → Prop} (shown : later now) (year : Instant.IsYear now.date.year)
include shown year

theorem exists_run_checkLock (plain : disk.find? store.lockPath ≠ some .directory) :
    ∃ events result, store.checkLock.run.Runs (Local.asProcess own later) disk events (some result) disk := by
  rcases lies : disk.find? store.lockPath with _ | bytes | _
  · have free : disk.exists? store.lockPath = false := by rw [Disk.exists?, lies, Option.isSome_none]
    exact ⟨_, _, .ask ⟨free.symm, rfl⟩ (.done _ _)⟩
  · have opens : (Program.answerable (Local.asProcess own later) disk).asks (.read store.lockPath) :=
      ⟨_, _, Disk.read_ok.mpr lies, rfl, rfl⟩
    refine Program.Within.exists_run_still ?_
    refine Attempt.within_bind (Attempt.within_lift (Program.within_perform.mpr ⟨_, rfl, rfl⟩)) fun there => ?_
    cases there with
    | false => trivial
    | true =>
      refine Attempt.within_bind (Attempt.within_adapt (Local.within_readText_of opens)) fun text => ?_
      cases Json.decode? Lock.ofJson? text with
      | none => trivial
      | some held =>
        refine Attempt.within_bind (Attempt.within_lift (Program.within_perform.mpr ⟨_, shown, year, rfl⟩)) fun _ => ?_
        split
        · exact Attempt.within_lift (Program.within_perform.mpr ⟨(), rfl⟩)
        · trivial
  · exact absurd lies plain

/-- Where files can be written, who wants the lock hears whether he has it. -/
theorem Ready.exists_run (ready : store.Ready disk) {id : UInt32} (owned : own id) (operation : String) :
    ∃ events outcome after,
      (store.acquireLock operation).run.Runs (Local.asProcess own later) disk events (some outcome) after := by
  obtain ⟨there, made, writable⟩ := ready
  have plain : disk.find? store.lockPath ≠ some .directory := by
    obtain ⟨place, located, _, free, _⟩ := Disk.write_ok writable
    rwa [Disk.find?, located]
  have makes : store.ensureDirectory.run.Runs (Local.asProcess own later) disk [⟨.exists? store.directory, true⟩]
      (some (.ok ())) disk :=
    .ask ⟨there.symm, rfl⟩ (.done _ _)
  obtain ⟨checking, result, checks⟩ := exists_run_checkLock shown year plain
  have possible : ¬ (store.acquireLock operation).run.Ensures (Local.asProcess own later) disk fun _ _ => ¬ True := by
    intro never
    rw [acquireLock, Attempt.ensures_bind] at never
    have never := never _ _ _ makes
    dsimp only at never
    rw [Attempt.ensures_bind] at never
    have never := never _ _ _ checks
    cases result with
    | error e => exact never trivial
    | ok _ =>
      obtain ⟨naming, holder, names⟩ : ∃ events holder,
          holderName.Runs (Local.asProcess own later) disk events (some holder) disk :=
        Program.Within.exists_run_still (within_holderName_of fun _ => ⟨none, rfl⟩)
      obtain ⟨after, written⟩ := Disk.exists_write writable (Lock.bytes ⟨holder, operation, id, now⟩)
      dsimp only at never
      rw [Attempt.ensures_bind, Attempt.ensures_lift] at never
      -- after the name come the id, the time, the file and a note
      exact never _ _ _ names _ (.ok ()) after
        (.ask ⟨owned, rfl⟩ (.ask ⟨shown, year, rfl⟩ (.ask ⟨written, rfl⟩ (.ask rfl (.done _ _))))) trivial
  obtain ⟨events, outcome, after, run, _⟩ := Program.exists_run possible
  exact ⟨events, outcome, after, run⟩

end

/-- Who comes in a period is given the lock exactly if its file is not spoiled, and if it is, nobody ever is. Where a
file can be written he hears so at whatever time of the period it is. -/
structure BlocksIfSpoiled (store : Store) (period : Instant → Prop) (disk : Disk) : Prop where
  given : ∀ own operation events result after,
    (store.acquireLock operation).run.Runs (Local.asProcess own period) disk events result after →
      ∃ outcome, result = some outcome ∧ (outcome = .ok () ↔ ¬ Spoiled (disk.find? store.lockPath))
  told : store.Ready disk → ∀ own id, own id → ∀ now, period now → Instant.IsYear now.date.year → ∀ operation,
    ∃ events outcome after,
      (store.acquireLock operation).run.Runs (Local.asProcess own period) disk events (some outcome) after
  never : Spoiled (disk.find? store.lockPath) → ∀ results last, store.Wanted disk results last →
    ∀ result ∈ results, ∃ e, result = some (.error e)

/-- Each lock that lies there was taken in the period. -/
def TakenIn (period : Instant → Prop) (entry : Option Entry) : Prop :=
  ∀ bytes lock, entry = some (.file bytes) → Lock.IsWritten lock bytes → period lock.acquiredAt

theorem Leftover.takenIn {before : Option Entry} (leftover : Leftover earlier operation before entry)
    (taken : TakenIn earlier before) : TakenIn earlier entry := by
  cases leftover with
  | untouched => exact taken
  | @written lock part more named since year begun =>
    rintro _ other ⟨⟩ read
    by_cases whole : more.size = 0
    · rw [ByteArray.size_eq_zero_iff.mp whole, ByteArray.append_empty] at begun
      rw [← begun] at read
      exact read.unique (Lock.isWritten_bytes year) ▸ since
    · exact absurd read (not_isWritten_part begun whole other)

theorem blocksIfSpoiled_of_takenIn (placed : store.Placed disk) (taken : TakenIn earlier (disk.find? store.lockPath))
    (apart : ∀ t, earlier t → ∀ t', later t' → Lock.staleNanos ≤ t'.nanosSince t) (shown : ∃ t, later t) :
    store.BlocksIfSpoiled later disk where
  given := by
    intro own operation events result after run
    obtain ⟨outcome, rfl⟩ := within_acquireLock.returns not_false run
    obtain ⟨⟨now, its, decides⟩, _⟩ := ensures_acquireLock_during shown placed operation _ _ _ run
    refine ⟨outcome, rfl, decides.ok_iff_not_spoiled fun bytes lock lies written => ?_⟩
    exact apart _ (taken bytes lock lies written) _ its
  told ready _ _ owned _ its year operation := ready.exists_run its year owned operation
  never spoiled results last wanted := wanted.refused placed spoiled

/-- A run may break off at any point while it takes the lock, or after that, and others may do something else meanwhile.
Then the file of the lock is what it was before or a part of what the run writes. Whoever comes half an hour after all
that is given the lock exactly if the file is not spoiled. What the run writes is spoiled exactly where it breaks off in
the middle of the text, and each run that is given the lock might have broken off at each place of it. -/
theorem given_unless_spoiled (placed : store.Placed disk) (taken : TakenIn earlier (disk.find? store.lockPath))
    (apart : ∀ t, earlier t → ∀ t', later t' → Lock.staleNanos ≤ t'.nanosSince t) (shown : ∃ t, later t)
    (operation : String) :
    (∀ between, (store.acquireLock operation).run.Reaches (Local.falteringDuring earlier) disk between →
      store.Left earlier operation disk between ∧ ∀ left, store.Placed left →
        left.find? store.lockPath = between.find? store.lockPath → store.BlocksIfSpoiled later left) ∧
    ∀ own events after,
      (store.acquireLock operation).run.Runs (Local.asProcess own earlier) disk events (some (.ok ())) after →
        ∃ lock, lock.operation = operation ∧ after.find? store.lockPath = some (.file (Lock.bytes lock)) ∧
          ∀ part more, lock.bytes = part ++ more → (Spoiled (some (.file part)) ↔ more.size ≠ 0) ∧
            ∃ between, (store.acquireLock operation).run.Reaches (Local.falteringDuring earlier) disk between ∧
              between.find? store.lockPath = some (.file part) := by
  refine ⟨fun between reached => ?_, fun own events after run => ?_⟩
  · have left := (Program.throughout_iff.mp (throughout_acquireLock placed operation)).1 between reached
    refine ⟨left, fun last there same => blocksIfSpoiled_of_takenIn there ?_ apart shown⟩
    rw [same]
    exact left.2.takenIn taken
  · obtain ⟨lock, named, year, lies, parts⟩ := exists_reaches_part placed run
    exact ⟨lock, named, lies, fun part more begun => ⟨spoiled_part_iff year begun, parts part more begun⟩⟩

/-- A run broke off after it had made the file of the lock and before it wrote anything. -/
def stranded : Disk :=
  ⟨[([".nimbus"], .directory), ([".nimbus", "lock.json"], .file .empty)], []⟩

theorem at_stranded : atRoot.At stranded [] :=
  at_files (by simp)

theorem ready_stranded : atRoot.Ready stranded where
  there := by decide +kernel
  writable := ⟨stranded, rfl⟩

/-- Half an hour later nobody is given the lock, and nobody ever is. -/
theorem refused_where_stranded :
    ∃ between events result after,
      (atRoot.acquireLock "lb create web").run.Reaches (Local.falteringDuring (· = default)) ⟨[], []⟩ between ∧
      stranded.find? atRoot.lockPath = between.find? atRoot.lockPath ∧
      (atRoot.acquireLock "lb destroy x").run.Runs (Local.asProcess (· = 1) (· = halfPast)) stranded events result
        after ∧
      Lock.staleNanos ≤ halfPast.nanosSince default ∧ result ≠ some (.ok ()) ∧
      ∀ results last, atRoot.Wanted stranded results last → ∀ result ∈ results, ∃ e, result = some (.error e) := by
  have taken : (atRoot.acquireLock "lb create web").run.Runs (Local.asProcess (· = 1) (· = default)) ⟨[], []⟩ _
      (some (.ok ())) inUse :=
    Local.runs_asProcess rfl Instant.isYear_default rfl
  have late : Lock.staleNanos ≤ halfPast.nanosSince default := by decide
  have apart : ∀ t, (· = default) t → ∀ t', (· = halfPast) t' → Lock.staleNanos ≤ t'.nanosSince t := by
    rintro _ rfl _ rfl
    exact late
  obtain ⟨left, complete⟩ := given_unless_spoiled holds_empty.placed nofun apart ⟨halfPast, rfl⟩ "lb create web"
  obtain ⟨lock, _, whole, parts⟩ := complete _ _ _ taken
  obtain ⟨spoiled, between, reached, lies⟩ := parts .empty lock.bytes ByteArray.empty_append.symm
  have same : stranded.find? atRoot.lockPath = between.find? atRoot.lockPath := lies.symm
  obtain ⟨_, blocks⟩ := left between reached
  have long : lock.bytes.size ≠ 0 := by
    rw [← Entry.file.inj (Option.some.inj whole)]
    decide +kernel
  have broken : Spoiled (stranded.find? atRoot.lockPath) := spoiled.mpr long
  obtain ⟨given, told, never⟩ := blocks stranded at_stranded.holds.placed same
  obtain ⟨_, _, _, tried⟩ :=
    told ready_stranded (· = 1) 1 rfl halfPast rfl isReading_halfPast.held "lb destroy x"
  obtain ⟨outcome, ended, ok⟩ := given _ _ _ _ _ tried
  refine ⟨between, _, _, _, reached, same, tried, late, fun done => ?_, never broken⟩
  cases ended.symm.trans done
  exact ok.mp rfl broken

end CloudBalance.Ledger.Store
