import CloudBalance.Proofs.Files.Clock
import CloudBalance.Proofs.Ledger.Placed

/-!
# Taking the lock and giving it back

What the file of the lock says, and what taking and giving back the lock do to it. Main statements: a lock that
is written is read again, what lies at the place of its file decides whether the lock is had, which is so if nobody has
it or its holder has had it for too long, and giving it back removes the file, whoever has it.
-/

namespace CloudBalance.Ledger

open Disk (Entry)
open Time (Instant)

/-! ## The text of a lock -/

namespace Lock

theorem ofJson?_toJson {lock : Lock} (held : Instant.IsYear lock.acquiredAt.date.year) :
    ofJson? lock.toJson = some lock := by
  have slots := Json.slots?_object lock.toJson ["holder", "operation", "pid", "acquired_at"] rfl rfl (by decide)
  have id := Json.toNatBelow?_ofNat lock.processId.toNat_lt
  have same : lock.processId.toNat.toUInt32 = lock.processId := UInt32.ofNat_toNat
  simp only [ofJson?, slots, List.map, Option.bind_eq_bind, Option.bind_some, Json.Slot.required, Json.toString?,
    UInt32.size, id, same, Instant.ofJson?_toJson lock.acquiredAt held]
  rfl

theorem isPlain_toJson (lock : Lock) : lock.toJson.IsPlain := by
  have id := lock.processId.toNat_lt
  simp only [toJson, Json.IsPlain, Json.MembersPlain, Instant.toJson, true_and, and_true]
  exact Json.isPlain_ofNat (Nat.lt_trans id (by decide))

/-- What the file of the lock holds. -/
def bytes (lock : Lock) : ByteArray :=
  Text.encode lock.toJson.pretty

theorem textOf_bytes (lock : Lock) : Local.textOf lock.bytes = .ok lock.toJson.pretty := by
  rw [bytes, Local.textOf, Text.decode?_encode]

theorem decode?_pretty {lock : Lock} (held : Instant.IsYear lock.acquiredAt.date.year) :
    Json.decode? ofJson? lock.toJson.pretty = some lock := by
  rw [Json.decode?, Json.parse?_pretty lock.isPlain_toJson, Option.bind_some, ofJson?_toJson held]

/-- These bytes are read as the lock. -/
def IsWritten (lock : Lock) (bytes : ByteArray) : Prop :=
  ∃ text, Local.textOf bytes = .ok text ∧ Json.decode? ofJson? text = some lock

theorem isWritten_bytes {lock : Lock} (held : Instant.IsYear lock.acquiredAt.date.year) :
    lock.IsWritten lock.bytes :=
  ⟨_, lock.textOf_bytes, decode?_pretty held⟩

theorem IsWritten.unique {lock other : Lock} {bytes : ByteArray} (written : lock.IsWritten bytes)
    (again : other.IsWritten bytes) : lock = other := by
  obtain ⟨text, reads, decoded⟩ := written
  obtain ⟨_, same, decoded'⟩ := again
  cases reads.symm.trans same
  exact Option.some.inj (decoded.symm.trans decoded')

/-- The age at which a lock no longer holds, in nanoseconds. -/
def staleNanos : Int := 30 * 60 * 1000000000

/-- Parts of a minute are cut off, and still no lock is taken over too early. -/
theorem isStale_iff_nanos {lock : Lock} {now : Instant} :
    lock.isStale now = true ↔ staleNanos ≤ now.nanosSince lock.acquiredAt := by
  have forward : (60 * ((1000000000 : Nat) : Int)).sign = 1 := by decide
  rw [isStale, decide_eq_true_iff, Instant.minutesSince, staleMinutes, staleNanos, Time.nanosPerSecond,
    Int.tdiv_eq_ediv, forward]
  -- an age below zero is rounded up, but not up to a minute
  split <;> omega

end Lock

namespace Store

variable {store : Store} {disk : Disk} {contents : String → Option Entry} {since : Option Instant} {now : Instant}

/-! ## Since when the lock is held -/

/-- The file of the lock says since when it is held; there is none if nobody has the lock. -/
def Tells (contents : String → Option Entry) : Option Instant → Prop
  | none => contents "lock.json" = none
  | some since => ∃ lock : Lock, lock.acquiredAt = since ∧ Instant.IsYear since.date.year ∧
      contents "lock.json" = some (.file lock.bytes)

/-- Whoever has had the lock since then has it now. -/
def IsHeld (since : Option Instant) (now : Instant) : Prop :=
  ∃ t ∈ since, now.minutesSince t < Lock.staleMinutes

@[simp] theorem not_isHeld_none : ¬ IsHeld none now := by
  simp [IsHeld]

theorem isHeld_some {t : Instant} : IsHeld (some t) now ↔ now.minutesSince t < Lock.staleMinutes := by
  simp [IsHeld]

theorem isStale_iff {lock : Lock} : lock.isStale now = true ↔ ¬ IsHeld (some lock.acquiredAt) now := by
  rw [isHeld_some, Lock.isStale, decide_eq_true_iff, Int.not_lt]

/-- Nothing but the file of the lock says since when it is held. -/
theorem Tells.congr {its : String → Option Entry} (tells : Tells contents since)
    (same : its "lock.json" = contents "lock.json") : Tells its since := by
  cases since with
  | none => exact same.trans tells
  | some t =>
    obtain ⟨lock, rfl, year, lies⟩ := tells
    exact ⟨lock, rfl, year, same.trans lies⟩

theorem tells_removed : Tells (Function.update contents "lock.json" none) none :=
  Function.update_self _ _ _

/-! ## Looking at the lock -/

/-- Why the lock is refused to those who come after. -/
def Refuses (since : Option Instant) (result : Except CloudError Unit) : Prop :=
  ∃ lock : Lock, since = some lock.acquiredAt ∧ result = .error lock.heldError

theorem Refuses.ne_ok {result : Except CloudError Unit} (refuses : Refuses since result) : result ≠ .ok () := by
  obtain ⟨lock, _, rfl⟩ := refuses
  exact nofun

/-- What is decided at a time about who wants the lock, by what lies at the place of its file. -/
inductive Decides (now : Instant) : Option Entry → Except CloudError Unit → Prop where
  | free : Decides now none (.ok ())
  | stale {bytes : ByteArray} {lock : Lock} (written : lock.IsWritten bytes)
      (old : Lock.staleNanos ≤ now.nanosSince lock.acquiredAt) : Decides now (some (.file bytes)) (.ok ())
  | held {bytes : ByteArray} {lock : Lock} (written : lock.IsWritten bytes)
      (young : now.nanosSince lock.acquiredAt < Lock.staleNanos) :
      Decides now (some (.file bytes)) (.error lock.heldError)
  | malformed {bytes : ByteArray} {text : String} (reads : Local.textOf bytes = .ok text)
      (unknown : Json.decode? Lock.ofJson? text = none) : Decides now (some (.file bytes)) (.error .malformed)
  | unreadable {bytes : ByteArray} {e : FileError} (fails : Local.textOf bytes = .error e) :
      Decides now (some (.file bytes)) (.error (.files e))

/-- What is decided is decided at a time that the clock shows. -/
theorem ensures_checkLock_decides {period : Instant → Prop} (shown : ∃ now, period now) :
    store.checkLock.run.Ensures (Local.during period) disk fun result after =>
      after = disk ∧ ∃ now, period now ∧ Decides now (disk.find? store.lockPath) result := by
  obtain ⟨some, its⟩ := shown
  rw [checkLock, Attempt.ensures_bind, Attempt.ensures_lift]
  refine Local.ensures_during (Local.ensures_exists?.mpr ?_)
  rw [Disk.exists?]
  cases lies : disk.find? store.lockPath with
  | none => exact Attempt.ensures_pure.mpr ⟨rfl, some, its, .free⟩
  | some entry =>
    simp only [Option.isSome_some, if_true, Attempt.ensures_bind, Attempt.ensures_attempt]
    refine Local.ensures_during (Local.ensures_readText.mpr fun bytes read => ?_)
    cases lies.symm.trans (Disk.read_ok.mp read)
    cases reads : Local.textOf bytes with
    | error e => exact ⟨rfl, some, its, .unreadable reads⟩
    | ok text =>
      cases decoded : Json.decode? Lock.ofJson? text with
      | none =>
        simp only [Except.mapError, decoded]
        exact Attempt.ensures_throw.mpr ⟨rfl, some, its, .malformed reads decoded⟩
      | some lock =>
        simp only [Except.mapError, decoded, Attempt.ensures_bind, Attempt.ensures_lift, Local.ensures_now_during]
        intro now its _
        split
        · rename_i stale
          rw [Attempt.ensures_lift]
          exact Local.ensures_during (Local.ensures_note.mpr
            ⟨rfl, now, its, .stale ⟨text, reads, decoded⟩ (Lock.isStale_iff_nanos.mp stale)⟩)
        · rename_i fresh
          rw [Lock.isStale_iff_nanos, Int.not_le] at fresh
          exact Attempt.ensures_throw.mpr ⟨rfl, now, its, .held ⟨text, reads, decoded⟩ fresh⟩

/-- A lock that can be read is given or refused by its age. -/
theorem Decides.of_isWritten {bytes : ByteArray} {lock : Lock} {result : Except CloudError Unit}
    (decides : Decides now (some (.file bytes)) result) (written : lock.IsWritten bytes) :
    Lock.staleNanos ≤ now.nanosSince lock.acquiredAt ∧ result = .ok () ∨
      now.nanosSince lock.acquiredAt < Lock.staleNanos ∧ result = .error lock.heldError := by
  cases decides with
  | stale its old =>
    cases written.unique its
    exact .inl ⟨old, rfl⟩
  | held its young =>
    cases written.unique its
    exact .inr ⟨young, rfl⟩
  | malformed reads unknown =>
    obtain ⟨text, reads', decoded⟩ := written
    cases reads.symm.trans reads'
    cases unknown.symm.trans decoded
  | unreadable fails =>
    obtain ⟨text, reads, _⟩ := written
    cases fails.symm.trans reads

/-- Where the file says since when the lock is held, it is free or refused. -/
theorem Decides.of_tells {result : Except CloudError Unit} (decides : Decides now (contents "lock.json") result)
    (tells : Tells contents since) :
    ¬ IsHeld since now ∧ result = .ok () ∨ IsHeld since now ∧ Refuses since result := by
  cases since with
  | none =>
    rw [show contents "lock.json" = none from tells] at decides
    cases decides
    exact .inl ⟨not_isHeld_none, rfl⟩
  | some t =>
    obtain ⟨lock, rfl, year, lies⟩ := tells
    rw [lies] at decides
    rcases decides.of_isWritten (Lock.isWritten_bytes year) with ⟨old, given⟩ | ⟨young, refused⟩
    · exact .inl ⟨isStale_iff.mp (Lock.isStale_iff_nanos.mpr old), given⟩
    · refine .inr ⟨?_, lock, rfl, refused⟩
      rwa [← not_not (a := IsHeld _ _), ← isStale_iff, Lock.isStale_iff_nanos, Int.not_le]

/-! ## Taking the lock -/

/-- What comes of taking the lock at a time, by what its file said before. -/
inductive Takes (now : Instant) : Option Instant → Except CloudError Unit → Option Instant → Prop where
  | taken {since : Option Instant} (free : ¬ IsHeld since now) : Takes now since (.ok ()) (some now)
  | refused {since : Option Instant} {result : Except CloudError Unit} (held : IsHeld since now)
      (refuses : Refuses since result) : Takes now since result since

theorem Takes.ok_iff {result : Except CloudError Unit} {after : Option Instant}
    (takes : Takes now since result after) : result = .ok () ↔ ¬ IsHeld since now := by
  cases takes with
  | taken free => simpa using free
  | refused held refuses => simp [held, refuses.ne_ok]

/-- What lies at the place of the lock after it was wanted. -/
inductive Leaves (own : UInt32 → Prop) (operation : String) (now : Instant) (before : Option Entry) :
    Except CloudError Unit → Option Entry → Prop where
  | taken {holder : String} {id : UInt32} (owned : own id) (year : Instant.IsYear now.date.year) :
      Leaves own operation now before (.ok ()) (some (.file (Lock.bytes ⟨holder, operation, id, now⟩)))
  | refused {e : CloudError} : Leaves own operation now before (.error e) before

theorem Leaves.eq_of_refused {own : UInt32 → Prop} {operation : String} {before after : Option Entry} {e : CloudError}
    (leaves : Leaves own operation now before (.error e) after) : after = before := by
  cases leaves with
  | refused => rfl

/-- The file decides, and only who is given the lock writes it. -/
theorem ensures_acquireLock_during {own : UInt32 → Prop} {period : Instant → Prop} (shown : ∃ now, period now)
    (placed : store.Placed disk) (operation : String) :
    (store.acquireLock operation).run.Ensures (Local.asProcess own period) disk fun result after =>
      (∃ now, period now ∧ Decides now (disk.find? store.lockPath) result) ∧ ∃ its, store.Holds after its ∧
        ∃ now, period now ∧ Leaves own operation now (disk.find? store.lockPath) result (its "lock.json") := by
  rw [acquireLock, Attempt.ensures_bind]
  refine Local.ensures_asProcess (Local.ensures_during ((ensures_ensureDirectory_found placed).mono ?_))
  rintro _ made ⟨rfl, contents, holds, same⟩
  have found : made.find? store.lockPath = disk.find? store.lockPath :=
    (holds.find?_file isName_lock).trans (same _ isName_lock)
  dsimp only
  rw [Attempt.ensures_bind]
  refine Local.ensures_asProcess ((ensures_checkLock_decides shown).mono ?_)
  rintro result _ ⟨rfl, decides⟩
  rw [found] at decides
  cases result with
  | error e =>
    obtain ⟨now, its⟩ := shown
    refine ⟨decides, contents, holds, now, its, ?_⟩
    rw [same _ isName_lock]
    exact .refused
  | ok _ =>
    dsimp only
    rw [Attempt.ensures_bind, Attempt.ensures_lift]
    refine Local.ensures_asProcess (Local.ensures_during (ensures_holderName.mono ?_))
    rintro holder _ rfl
    dsimp only
    rw [Attempt.ensures_bind, Attempt.ensures_lift, Local.ensures_processId_asProcess]
    intro id owned
    dsimp only
    rw [Attempt.ensures_bind, Attempt.ensures_lift]
    refine Local.ensures_asProcess (Local.ensures_now_during.mpr fun now its year => ?_)
    refine Local.ensures_asProcess (Local.ensures_during ?_)
    simp only [Attempt.ensures_bind, Attempt.ensures_attempt, Attempt.ensures_lift, Local.ensures_write,
      Local.ensures_note, Except.mapError]
    intro after written
    refine ⟨decides, _, holds.write_file isName_lock written, now, its, ?_⟩
    rw [Function.update_self]
    exact .taken owned year

theorem ensures_acquireLock_decides {own : UInt32 → Prop} (placed : store.Placed disk) (operation : String) :
    (store.acquireLock operation).run.Ensures (Local.asProcess own (· = now)) disk fun result after =>
      Decides now (disk.find? store.lockPath) result ∧ ∃ its, store.Holds after its ∧
        Leaves own operation now (disk.find? store.lockPath) result (its "lock.json") := by
  have shown : ∃ t, (· = now) t := ⟨now, rfl⟩
  refine (ensures_acquireLock_during shown placed operation).mono ?_
  rintro result after ⟨⟨_, rfl, decides⟩, its, holds, _, rfl, leaves⟩
  exact ⟨decides, its, holds, leaves⟩

/-- Whoever is given the lock has written its file. -/
theorem ensures_acquireLock_given (holds : store.Holds disk contents) (operation : String) :
    (store.acquireLock operation).run.Ensures (Local.during (· = now)) disk fun result after =>
      result = .ok () → ∃ its, store.Holds after its ∧ Tells its (some now) := by
  refine ((ensures_acquireLock_decides holds.placed operation).narrow Local.asProcess_of_during).mono ?_
  rintro _ after ⟨_, its, holds, leaves⟩ rfl
  generalize lies : its "lock.json" = entry at leaves
  cases leaves with
  | taken _ year => exact ⟨its, holds, _, rfl, year, lies⟩

theorem ensures_acquireLock_at (holds : store.Holds disk contents) (tells : Tells contents since)
    (operation : String) :
    (store.acquireLock operation).run.Ensures (Local.during (· = now)) disk fun result after =>
      ∃ its last, store.Holds after its ∧ Tells its last ∧ Takes now since result last := by
  refine ((ensures_acquireLock_decides holds.placed operation).narrow Local.asProcess_of_during).mono ?_
  rintro result after ⟨decides, its, holds', leaves⟩
  rw [lockPath, holds.find?_file isName_lock] at decides leaves
  generalize lies : its "lock.json" = entry at leaves
  rcases decides.of_tells tells with ⟨free, rfl⟩ | ⟨held, refuses⟩
  · cases leaves with
    | taken _ year => exact ⟨its, some now, holds', ⟨_, rfl, year, lies⟩, .taken free⟩
  · cases leaves with
    | taken => exact absurd rfl refuses.ne_ok
    | refused => exact ⟨its, since, holds', tells.congr lies, .refused held refuses⟩

/-! ## Giving the lock back -/

theorem ensures_releaseLock_tells (holds : store.Holds disk contents) :
    store.releaseLock.run.Ensures Local.onDisk disk fun result after =>
      result = .ok () ∧ ∃ its, store.Holds after its ∧ Tells its none := by
  simp only [releaseLock, Attempt.ensures_bind, Attempt.ensures_lift, Local.ensures_exists?]
  split
  · simp only [Attempt.ensures_bind, Attempt.ensures_attempt, Attempt.ensures_lift, Local.ensures_remove,
      Local.ensures_note, Except.mapError, true_and]
    intro after removed
    exact ⟨_, holds.remove_file isName_lock removed, tells_removed⟩
  · rename_i missing
    rw [lockPath, holds.exists?_file isName_lock, Option.not_isSome_iff_eq_none] at missing
    exact Attempt.ensures_pure.mpr ⟨rfl, contents, holds, missing⟩

theorem ensures_dropLock_tells (holds : store.Holds disk contents) :
    store.dropLock.Ensures Local.onDisk disk fun _ after =>
      ∃ its, store.Holds after its ∧ Tells its none := by
  simp only [dropLock, Program.ensures_bind, Local.ensures_exists?]
  split
  · simp only [Program.ensures_bind, Local.ensures_remove]
    intro after removed
    exact Program.ensures_done.mpr ⟨_, holds.remove_file isName_lock removed, tells_removed⟩
  · rename_i missing
    rw [lockPath, holds.exists?_file isName_lock, Option.not_isSome_iff_eq_none] at missing
    exact Program.ensures_done.mpr ⟨contents, holds, missing⟩

end Store

end CloudBalance.Ledger
