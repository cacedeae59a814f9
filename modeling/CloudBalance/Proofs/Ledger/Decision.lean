import CloudBalance.Proofs.Ledger.Guard
import CloudBalance.Proofs.Ledger.Lock

/-!
# Who is given the lock

What lies at the place of the lock and the time decide about who wants it. Main statement: the lock is given exactly if
there is no file or one of a lock that was taken half an hour ago or earlier, to the nanosecond. Whoever is refused has
not touched the file; whoever is given the lock has it for half an hour, whatever others try, until it is given back,
and then the file is gone.
-/

namespace CloudBalance

/-- Whatever a program asks, it does not halt. -/
def Local.returning : Program.Scope Local := ⟨fun _ => True, False⟩

theorem Local.returning_of_looking {α : Type} {p : Program Local α} (within : p.Within Local.looking) :
    p.Within Local.returning :=
  within.mono (fun _ _ => trivial) id

/-- A program returns in one way where it ensures whatever holds after that. -/
theorem Local.yields_of_ensures {α : Type} {p : Program Local α} {disk after : Disk} {a : α}
    (within : p.Within Local.returning) (ensures : ∀ post, p.Ensures Local.onDisk disk post ↔ post a after) :
    p.Yields Local.onDisk disk a after where
  runs := by
    have possible : ¬ p.Ensures Local.onDisk disk fun b last => ¬ (b = a ∧ last = after) := by
      rw [ensures, not_not]
      exact ⟨rfl, rfl⟩
    obtain ⟨events, _, _, run, rfl, rfl⟩ := Program.exists_run possible
    exact ⟨events, run⟩
  only events result last run := by
    obtain ⟨b, rfl⟩ := within.returns not_false run
    obtain ⟨rfl, rfl⟩ := (ensures fun b last => b = a ∧ last = after).mpr ⟨rfl, rfl⟩ _ _ _ run
    exact ⟨rfl, rfl⟩

namespace Ledger.Store

open Disk (Entry)
open Time (Instant)

variable {store : Store} {disk after : Disk} {now start : Instant} {operation : String}

theorem within_acquireLock : (store.acquireLock operation).run.Within Local.returning := by
  refine Attempt.within_bind ?_ fun _ => ?_
  · refine Attempt.within_bind (Attempt.within_lift (Program.within_perform.mpr trivial)) fun there => ?_
    split
    · refine Attempt.within_bind (Attempt.within_adapt (Program.within_perform.mpr trivial)) fun _ => ?_
      exact Attempt.within_lift (Program.within_perform.mpr trivial)
    · trivial
  · refine Attempt.within_bind (Local.returning_of_looking within_checkLock) fun _ => ?_
    refine Attempt.within_bind (Attempt.within_lift (Local.returning_of_looking within_holderName)) fun _ => ?_
    refine Attempt.within_bind (Attempt.within_lift (Program.within_perform.mpr trivial)) fun _ => ?_
    refine Attempt.within_bind (Attempt.within_lift (Program.within_perform.mpr trivial)) fun _ => ?_
    refine Attempt.within_bind (Attempt.within_adapt (Program.within_perform.mpr trivial)) fun _ => ?_
    exact Attempt.within_lift (Program.within_perform.mpr trivial)

/-! ## The decision -/

/-- At the place of the lock there is no file, or one of a lock that no longer holds. -/
def IsOpen (store : Store) (disk : Disk) (now : Instant) : Prop :=
  disk.find? store.lockPath = none ∨
    ∃ bytes lock, disk.find? store.lockPath = some (.file bytes) ∧ Lock.IsWritten lock bytes ∧
      Lock.staleNanos ≤ now.nanosSince lock.acquiredAt

theorem Decides.ok_iff {result : Except CloudError Unit} (decides : Decides now (disk.find? store.lockPath) result) :
    result = .ok () ↔ store.IsOpen disk now := by
  rw [IsOpen]
  generalize disk.find? store.lockPath = entry at decides
  constructor
  · rintro rfl
    cases decides with
    | free => exact .inl rfl
    | stale written old => exact .inr ⟨_, _, rfl, written, old⟩
  · rintro (rfl | ⟨bytes, lock, rfl, written, old⟩)
    · cases decides
      rfl
    · rcases decides.of_isWritten written with ⟨_, given⟩ | ⟨young, _⟩
      · exact given
      · exact absurd young (Int.not_lt.mpr old)

/-! ## While the lock is held -/

/-- From the time at which a lock was taken others want it, and all that happens besides leaves its file alone. -/
inductive Meanwhile (store : Store) (start : Instant) :
    Disk → List (Option (Except CloudError Unit)) → Disk → Prop where
  | nil (disk : Disk) : Meanwhile store start disk [] disk
  | wanted {disk between after : Disk} {id : UInt32} {now : Instant} {operation : String} {events : List Local.Event}
      {result : Option (Except CloudError Unit)} {results : List (Option (Except CloudError Unit))}
      (early : now.nanosSince start < Lock.staleNanos)
      (run : (store.acquireLock operation).run.Runs (Local.asProcess (· = id) (· = now)) disk events result between)
      (later : Meanwhile store start between results after) : Meanwhile store start disk (result :: results) after
  | elsewhere {disk between after : Disk} {results : List (Option (Except CloudError Unit))}
      (placed : store.Placed between) (same : between.find? store.lockPath = disk.find? store.lockPath)
      (later : Meanwhile store start between results after) : Meanwhile store start disk results after

variable {results : List (Option (Except CloudError Unit))} {lock : Lock} {bytes : ByteArray} {id : UInt32}
  {events : List Local.Event} {result : Option (Except CloudError Unit)}

/-- Whoever wants a lock that still holds learns who has it. -/
theorem refused_of_held (placed : store.Placed disk) (lies : disk.find? store.lockPath = some (.file bytes))
    (written : lock.IsWritten bytes) (young : now.nanosSince lock.acquiredAt < Lock.staleNanos)
    (run : (store.acquireLock operation).run.Runs (Local.asProcess (· = id) (· = now)) disk events result after) :
    result = some (.error lock.heldError) ∧ store.Placed after ∧
      after.find? store.lockPath = some (.file bytes) := by
  obtain ⟨outcome, rfl⟩ := within_acquireLock.returns not_false run
  obtain ⟨decides, its, holds, leaves⟩ := ensures_acquireLock_decides placed operation _ _ _ run
  rw [lies] at decides leaves
  rcases decides.of_isWritten written with ⟨old, _⟩ | ⟨_, rfl⟩
  · exact absurd young (Int.not_lt.mpr old)
  · exact ⟨rfl, holds.placed, (holds.find?_file isName_lock).trans leaves.eq_of_refused⟩

theorem Meanwhile.refused {later : Disk} (meanwhile : store.Meanwhile start disk results later)
    (placed : store.Placed disk) (lies : disk.find? store.lockPath = some (.file bytes))
    (written : lock.IsWritten bytes) (since : lock.acquiredAt = start) :
    (∀ result ∈ results, result = some (.error lock.heldError)) ∧ store.Placed later ∧
      later.find? store.lockPath = some (.file bytes) := by
  induction meanwhile with
  | nil => exact ⟨List.forall_mem_nil _, placed, lies⟩
  | wanted early run _ ih =>
    obtain ⟨refused, placed, lies⟩ := refused_of_held placed lies written (since ▸ early) run
    obtain ⟨others, rest⟩ := ih placed lies
    exact ⟨List.forall_mem_cons.mpr ⟨refused, others⟩, rest⟩
  | elsewhere there same _ ih => exact ih there (same.trans lies)

/-! ## Giving the lock back -/

/-- Whoever gives the lock back, in order or because his run breaks off, removes its file. -/
structure GivesBack (store : Store) (disk after : Disk) : Prop where
  released : store.releaseLock.run.Yields Local.onDisk disk (.ok ()) after
  dropped : store.dropLock.Yields Local.onDisk disk () after
  removed : after.find? store.lockPath = none

theorem within_releaseLock : store.releaseLock.run.Within Local.returning := by
  refine Attempt.within_bind (Attempt.within_lift (Program.within_perform.mpr trivial)) fun there => ?_
  split
  · refine Attempt.within_bind (Attempt.within_adapt (Program.within_perform.mpr trivial)) fun _ => ?_
    exact Attempt.within_lift (Program.within_perform.mpr trivial)
  · trivial

theorem within_dropLock : store.dropLock.Within Local.returning := by
  refine Program.Within.bind (Program.within_perform.mpr trivial) fun there => ?_
  split
  · exact Program.Within.bind (Program.within_perform.mpr trivial) fun _ => trivial
  · trivial

theorem Placed.holds (placed : store.Placed disk) {entry : Entry} (lies : disk.find? store.lockPath = some entry) :
    ∃ contents, store.Holds disk contents := by
  rcases placed.cases with holds | missing
  · exact holds
  · rw [lockPath, missing.find?_file isName_lock] at lies
    cases lies

theorem exists_givesBack (placed : store.Placed disk) (lies : disk.find? store.lockPath = some (.file bytes)) :
    ∃ after, store.GivesBack disk after := by
  obtain ⟨contents, holds⟩ := placed.holds lies
  obtain ⟨after, removed⟩ := Disk.remove_of_file lies
  have there : disk.exists? store.lockPath = true := by rw [Disk.exists?, lies, Option.isSome_some]
  have gone := (holds.remove_file isName_lock removed).find?_file isName_lock
  rw [Function.update_self] at gone
  refine ⟨after, Local.yields_of_ensures within_releaseLock fun post => ?_,
    Local.yields_of_ensures within_dropLock fun post => ?_, gone⟩
  · simp [releaseLock, there, removed, Except.mapError]
  · simp [dropLock, there, removed]

/-- The last moment at which a lock that was taken at the beginning holds. -/
def lastMoment : Instant := ⟨default, 1799, 999999999, by decide⟩

/-- A project whose lock was taken at the beginning. -/
def inUse : Disk :=
  ⟨[([".nimbus"], .directory), ([".nimbus", "lock.json"],
    .file (Lock.bytes ⟨"unknown", "lb create web", 1, default⟩))], []⟩

end Ledger.Store

end CloudBalance
