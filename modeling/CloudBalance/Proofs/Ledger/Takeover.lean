import CloudBalance.Proofs.Ledger.Lock

/-!
# Giving back a lock that was taken over

Whoever was given the lock keeps a guard and gives the lock back by it, once. A lock that is too old is taken
over, and then there are two guards and one file. Main statements: over any history of taking and giving back,
the file says since when the lock is held by what was done last, and while a guard is kept, the lock is given to
others just when another guard was given back.
-/

namespace CloudBalance.Ledger.Store

open Disk (Entry)
open Time (Instant)

variable {ι : Type} {store : Store} {disk after last : Disk} {contents : String → Option Entry}
  {since : Option Instant}

/-! ## Histories -/

/-- What somebody did with the lock. -/
inductive Deed (ι : Type) where
  /-- The lock was taken at a time. -/
  | taken (who : ι) (now : Instant)
  /-- The lock was not to be had at a time. -/
  | refused (who : ι) (now : Instant)
  /-- The lock was given back by the guard of that time. -/
  | returned (who : ι) (guard : Instant)

/-- Since when the lock is held after some deeds. -/
def heldAfter : Option Instant → List (Deed ι) → Option Instant
  | since, [] => since
  | _, .taken _ now :: later => heldAfter (some now) later
  | since, .refused _ _ :: later => heldAfter since later
  | _, .returned _ _ :: later => heldAfter none later

/-- When the clock was looked at. -/
def times (deeds : List (Deed ι)) : List Instant :=
  deeds.filterMap fun
    | .taken _ now | .refused _ now => some now
    | .returned _ _ => none

theorem heldAfter_eq_some {deeds : List (Deed ι)} {t : Instant} (held : heldAfter since deeds = some t) :
    since = some t ∨ t ∈ times deeds := by
  induction deeds generalizing since with
  | nil => exact .inl held
  | cons deed later ih =>
    cases deed with
    | taken who now =>
      rcases ih held with same | among
      · cases same
        exact .inr List.mem_cons_self
      · exact .inr (List.mem_cons_of_mem _ among)
    | refused who now =>
      rcases ih held with same | among
      · exact .inl same
      · exact .inr (List.mem_cons_of_mem _ among)
    | returned who guard =>
      rcases ih held with impossible | among
      · cases impossible
      · exact .inr among

variable [DecidableEq ι]

/-- Deeds of any number of users, one after the other, from the disk and the guards that there are before to
those that there are afterwards. A guard is given back by release or by drop. -/
inductive History (store : Store) : Disk → List (ι × Instant) → List (Deed ι) → Disk → List (ι × Instant) → Prop where
  | nil (disk : Disk) (guards : List (ι × Instant)) : History store disk guards [] disk guards
  | taken {disk between after : Disk} {guards rest : List (ι × Instant)} {later : List (Deed ι)} {who : ι}
      {now : Instant} {operation : String} {events : List Local.Event}
      (run : (store.acquireLock operation).run.Runs (Local.during (· = now)) disk events (some (.ok ())) between)
      (next : History store between ((who, now) :: guards) later after rest) :
      History store disk guards (.taken who now :: later) after rest
  | refused {disk between after : Disk} {guards rest : List (ι × Instant)} {later : List (Deed ι)} {who : ι}
      {now : Instant} {operation : String} {events : List Local.Event} {error : CloudError}
      (run : (store.acquireLock operation).run.Runs (Local.during (· = now)) disk events (some (.error error)) between)
      (next : History store between guards later after rest) :
      History store disk guards (.refused who now :: later) after rest
  | released {disk between after : Disk} {guards rest : List (ι × Instant)} {later : List (Deed ι)} {who : ι}
      {guard : Instant} {events : List Local.Event} {result : Except CloudError Unit}
      (has : (who, guard) ∈ guards)
      (run : store.releaseLock.run.Runs Local.onDisk disk events (some result) between)
      (next : History store between (guards.erase (who, guard)) later after rest) :
      History store disk guards (.returned who guard :: later) after rest
  | dropped {disk between after : Disk} {guards rest : List (ι × Instant)} {later : List (Deed ι)} {who : ι}
      {guard : Instant} {events : List Local.Event} (has : (who, guard) ∈ guards)
      (run : store.dropLock.Runs Local.onDisk disk events (some ()) between)
      (next : History store between (guards.erase (who, guard)) later after rest) :
      History store disk guards (.returned who guard :: later) after rest

variable {guards rest : List (ι × Instant)} {deeds : List (Deed ι)}

/-- What the file of the lock says follows the deeds. -/
theorem History.tells (history : store.History disk guards deeds after rest) (holds : store.Holds disk contents)
    (tells : Tells contents since) :
    ∃ its, store.Holds after its ∧ Tells its (heldAfter since deeds) := by
  induction history generalizing contents since with
  | nil => exact ⟨contents, holds, tells⟩
  | taken run _ ih =>
    obtain ⟨its, last, holds, tells, takes⟩ := ensures_acquireLock_at holds tells _ _ _ _ run
    cases takes with
    | taken => exact ih holds tells
    | refused _ refuses => exact absurd rfl refuses.ne_ok
  | refused run _ ih =>
    obtain ⟨its, last, holds, tells, takes⟩ := ensures_acquireLock_at holds tells _ _ _ _ run
    cases takes with
    | refused => exact ih holds tells
  | released _ run _ ih =>
    obtain ⟨_, its, holds, tells⟩ := ensures_releaseLock_tells holds _ _ _ run
    exact ih holds tells
  | dropped _ run _ ih =>
    obtain ⟨its, holds, tells⟩ := ensures_dropLock_tells holds _ _ _ run
    exact ih holds tells

/-! ## Who is given the lock -/

/-- A lock that nobody may take yet is free only after a guard from before was given back. -/
theorem History.exists_returned (history : store.History disk guards deeds after rest)
    (holds : store.Holds disk contents) {t : Instant} (tells : Tells contents (some t))
    (soon : ∀ now ∈ times deeds, now.minutesSince t < Lock.staleMinutes) (free : heldAfter (some t) deeds = none) :
    ∃ guard ∈ guards, .returned guard.1 guard.2 ∈ deeds := by
  -- on the deeds, as long as the lock is the one that was taken at the beginning
  induction history generalizing contents with
  | nil => cases free
  | taken run _ _ =>
    obtain ⟨_, _, _, _, takes⟩ := ensures_acquireLock_at holds tells _ _ _ _ run
    exact absurd (isHeld_some.mpr (soon _ List.mem_cons_self)) (takes.ok_iff.mp rfl)
  | refused run _ ih =>
    obtain ⟨_, _, holds, tells, takes⟩ := ensures_acquireLock_at holds tells _ _ _ _ run
    cases takes with
    | refused =>
      obtain ⟨guard, has, returned⟩ := ih holds tells (fun now among => soon now (List.mem_cons_of_mem _ among)) free
      exact ⟨guard, has, List.mem_cons_of_mem _ returned⟩
  | released has | dropped has => exact ⟨_, has, List.mem_cons_self⟩

/-- Within the time in which the lock is held, and while its holder keeps his guard, others are given the lock
just when it was given back last, which starts with a guard from before. Else they learn who has it. -/
theorem given_iff_returned {who : ι} {t u : Instant} {operation operation' : String}
    {between : Disk} {events events' : List Local.Event} {result : Except CloudError Unit}
    (holds : store.Holds disk contents)
    (taken : (store.acquireLock operation).run.Runs (Local.during (· = t)) disk events (some (.ok ())) between)
    (history : store.History between ((who, t) :: guards) deeds after rest) (keeps : .returned who t ∉ deeds)
    (clock : ∀ now ∈ t :: u :: times deeds, now.IsReading ∧ t.position ≤ now.position ∧ now.position ≤ u.position)
    (soon : u.minutesSince t < Lock.staleMinutes)
    (run : (store.acquireLock operation').run.Runs (Local.during (· = u)) after events' (some result) last) :
    (heldAfter (some t) deeds = none ∧ result = .ok () ∧ ∃ guard ∈ guards, .returned guard.1 guard.2 ∈ deeds) ∨
      Refuses (heldAfter (some t) deeds) result := by
  obtain ⟨reads, _, _⟩ := clock t List.mem_cons_self
  obtain ⟨reads', _, _⟩ := clock u (by simp)
  have among : ∀ now ∈ times deeds, now.IsReading ∧ t.position ≤ now.position ∧ now.position ≤ u.position :=
    fun now member => clock now (by simp [member])
  have early : ∀ now ∈ times deeds, now.minutesSince t < Lock.staleMinutes := by
    intro now member
    obtain ⟨reading, _, ends⟩ := among now member
    have shorter : now.minutesSince t ≤ u.minutesSince t :=
      Instant.minutesSince_mono (by simp [reads, reads', reading]) (Int.le_refl _) ends
    exact Int.lt_of_le_of_lt shorter soon
  obtain ⟨its, holds, tells⟩ := ensures_acquireLock_given holds operation _ _ _ taken rfl
  obtain ⟨its', holds', tells'⟩ := history.tells holds tells
  obtain ⟨_, _, _, _, takes⟩ := ensures_acquireLock_at holds' tells' operation' _ _ _ run
  cases lies : heldAfter (some t) deeds with
  | none =>
    obtain ⟨guard, has, returned⟩ := history.exists_returned holds tells early lies
    have other : guard ∈ guards := by
      rcases List.mem_cons.mp has with rfl | other
      · exact absurd returned keeps
      · exact other
    rw [lies] at takes
    exact .inl ⟨rfl, takes.ok_iff.mpr not_isHeld_none, guard, other, returned⟩
  | some t' =>
    rw [lies] at takes
    -- whoever has the lock now took it no earlier than at `t`, so it is not too old either
    have held : IsHeld (some t') u := by
      rw [isHeld_some]
      rcases heldAfter_eq_some lies with same | member
      · cases same
        exact soon
      · obtain ⟨reading, starts, _⟩ := among t' member
        have shorter : u.minutesSince t' ≤ u.minutesSince t :=
          Instant.minutesSince_mono (by simp [reads, reads', reading]) starts (Int.le_refl _)
        exact Int.lt_of_le_of_lt shorter soon
    cases takes with
    | taken free => exact absurd held free
    | refused _ refuses => exact .inr refuses

/-- The time at which a lock that was taken at the beginning is too old. -/
def halfPast : Instant := ⟨default, 1800, 0, by decide⟩

theorem isReading_halfPast : halfPast.IsReading :=
  ⟨⟨by decide, by decide⟩, by decide⟩

/-- The disk of a project whose lock was taken at a time. -/
def lockedAt (now : Instant) : Disk :=
  ⟨[([".nimbus"], .directory), ([".nimbus", "lock.json"], .file (Lock.bytes ⟨"unknown", "", 1, now⟩))], []⟩

/-- The disk after the lock was given back. -/
def unlocked : Disk :=
  ⟨[([".nimbus"], .directory)], []⟩

theorem exists_run_first :
    ∃ events, (atRoot.acquireLock "").run.Runs (Local.during (· = default)) ⟨[], []⟩ events (some (.ok ()))
      (lockedAt default) :=
  ⟨_, Local.runs_showing Instant.isYear_default rfl rfl⟩

theorem exists_run_takeover (holds : atRoot.Holds (lockedAt default) contents) :
    ∃ events, (atRoot.acquireLock "").run.Runs (Local.during (· = halfPast)) (lockedAt default) events (some (.ok ()))
      (lockedAt halfPast) := by
  have made : ∃ events, atRoot.ensureDirectory.run.Runs (Local.during (· = halfPast)) (lockedAt default) events
      (some (.ok ())) (lockedAt default) :=
    ⟨_, Local.runs_showing isReading_halfPast.held rfl rfl⟩
  have checks : ∃ events, atRoot.checkLock.run.Runs (Local.during (· = halfPast)) (lockedAt default) events
      (some (.ok ())) (lockedAt default) := by
    have ended : (atRoot.checkLock.run.run (Local.showing halfPast) (lockedAt default)).1 = some (.ok ()) := by
      decide +kernel
    have run := Local.runs_showing isReading_halfPast.held (by decide +kernel) ended
    obtain ⟨_, same⟩ := ensures_checkLock holds _ _ _ (Local.runs_onDisk run)
    exact ⟨_, same ▸ run⟩
  obtain ⟨_, made⟩ := made
  obtain ⟨_, checks⟩ := checks
  exact ⟨_, Attempt.runs_bind.mpr (.inl ⟨_, _, _, _, made,
    Attempt.runs_bind.mpr (.inl ⟨_, _, _, _, checks, Local.runs_showing isReading_halfPast.held rfl rfl, rfl⟩), rfl⟩)⟩

theorem exists_run_late :
    ∃ events, atRoot.releaseLock.run.Runs (Local.during (· = halfPast)) (lockedAt halfPast) events (some (.ok ()))
      unlocked :=
  ⟨_, Local.runs_showing isReading_halfPast.held rfl rfl⟩

theorem exists_run_third :
    ∃ events, (atRoot.acquireLock "").run.Runs (Local.during (· = halfPast)) unlocked events (some (.ok ()))
      (lockedAt halfPast) :=
  ⟨_, Local.runs_showing isReading_halfPast.held rfl rfl⟩

/-- The first of three gives the lock back late, and then the third one is given what the second one has. -/
theorem given_late :
    ∃ last, atRoot.History ⟨[], []⟩ []
        [.taken 0 default, .taken 1 halfPast, .returned 0 default, .taken 2 halfPast] last
        [(2, halfPast), (1, halfPast)] ∧
      ∃ guard ∈ [((0 : Nat), (default : Instant))], .returned guard.1 guard.2 ∈ [Deed.returned (0 : Nat) default] := by
  obtain ⟨_, first⟩ := exists_run_first
  obtain ⟨its, holds, _⟩ := ensures_acquireLock_given holds_empty "" _ _ _ first rfl
  obtain ⟨_, second⟩ := exists_run_takeover holds
  obtain ⟨_, late⟩ := exists_run_late
  obtain ⟨_, third⟩ := exists_run_third
  have returns : atRoot.History (lockedAt halfPast) [(1, halfPast), (0, default)] [.returned 0 default] unlocked
      [(1, halfPast)] :=
    .released (by simp) (Local.runs_onDisk late) (.nil _ _)
  refine ⟨_, .taken first (.taken second (.released (by simp) (Local.runs_onDisk late) (.taken third (.nil _ _)))), ?_⟩
  have clock : ∀ now ∈ halfPast :: halfPast :: times [Deed.returned 0 default],
      now.IsReading ∧ halfPast.position ≤ now.position ∧ now.position ≤ halfPast.position := by
    intro now member
    obtain rfl : now = halfPast := by simpa [times] using member
    exact ⟨isReading_halfPast, Int.le_refl _, Int.le_refl _⟩
  have keeps : Deed.returned 1 halfPast ∉ [Deed.returned 0 default] := by simp
  rcases given_iff_returned holds second returns keeps clock (by decide) third with ⟨_, _, earlier⟩ | refuses
  · exact earlier
  · exact absurd rfl refuses.ne_ok

end CloudBalance.Ledger.Store
