import CloudBalance.Proofs.Files.Machine

/-!
# A machine and its clock

The machine on which files work, for as long as its clock shows times of a period, and as a process sees it. Main
statements: but for the clock, it is the machine that it was, and a program that runs on it at a time has a run there.
-/

namespace CloudBalance

open Time (Instant)

/-! ## Times -/

namespace Time.Instant

/-- The nanoseconds from the beginning of the calendar, without leap seconds. -/
def position (t : Instant) : Int :=
  (t.date.dayNumber * secondsPerDay + t.second) * nanosPerSecond + t.nanos

/-- A time that a clock can show, which knows no leap seconds. -/
structure IsReading (t : Instant) : Prop where
  held : IsYear t.date.year
  plain : t.nanos < nanosPerSecond

theorem nanosSince_eq {earlier later : Instant} (first : earlier.IsReading) (second : later.IsReading) :
    later.nanosSince earlier = later.position - earlier.position := by
  have plain := first.plain
  have plain' := second.plain
  rw [nanosSince, if_neg (by omega : ¬ nanosPerSecond ≤ earlier.nanos),
    if_neg (by omega : ¬ nanosPerSecond ≤ later.nanos), ite_self, ite_self, position, position]
  simp only [nanosPerSecond, secondsPerDay]
  omega

/-- The time between two others is no longer than theirs. -/
theorem minutesSince_mono {earlier later first last : Instant}
    (reads : ∀ t ∈ [earlier, later, first, last], t.IsReading) (starts : first.position ≤ earlier.position)
    (ends : later.position ≤ last.position) :
    later.minutesSince earlier ≤ last.minutesSince first := by
  rw [minutesSince, minutesSince, nanosSince_eq (reads _ (by simp)) (reads _ (by simp)),
    nanosSince_eq (reads _ (by simp)) (reads _ (by simp))]
  exact Int.tdiv_le_tdiv (by decide) (by omega)

end Time.Instant

/-! ## Clocks -/

namespace Local

variable {period : Instant → Prop} {disk after : Disk} {path : String}

/-- The machine while its clock shows times of a period. -/
def during (period : Instant → Prop) : Environment Local Disk
  | disk, .now, answer, after => period answer ∧ onDisk disk .now answer after
  | disk, query, answer, after => onDisk disk query answer after

theorem onDisk_of_during {query : Local.Query} {answer : Local.Answer query}
    (answered : during period disk query answer after) : onDisk disk query answer after := by
  cases query with
  | now => exact answered.2
  | _ => exact answered

theorem during_of_onDisk {query : Local.Query} {answer : Local.Answer query}
    (answered : onDisk disk query answer after) : during (fun _ => True) disk query answer after := by
  cases query with
  | now => exact ⟨trivial, answered⟩
  | _ => exact answered

theorem runs_onDisk {α : Type} {p : Program Local α} {events : List Local.Event} {result : Option α}
    (run : p.Runs (during period) disk events result after) : p.Runs onDisk disk events result after :=
  run.mono onDisk_of_during

theorem ensures_during {α : Type} {p : Program Local α} {post : α → Disk → Prop}
    (ensured : p.Ensures onDisk disk post) : p.Ensures (during period) disk post :=
  ensured.narrow onDisk_of_during

@[simp] theorem ensures_now_during {post : Instant → Disk → Prop} :
    Local.now.Ensures (during period) disk post ↔
      ∀ now, period now → Instant.IsYear now.date.year → post now disk := by
  rw [Local.now, Program.ensures_perform]
  constructor
  · exact fun each now shown held => each now disk ⟨shown, held, rfl⟩
  · rintro each now _ ⟨shown, held, rfl⟩
    exact each now shown held

/-! ## Processes -/

/-- The machine as a process sees it that has one of these ids. -/
def asProcess (own : UInt32 → Prop) (period : Instant → Prop) : Environment Local Disk
  | disk, .processId, answer, after => own answer ∧ onDisk disk .processId answer after
  | disk, query, answer, after => during period disk query answer after

variable {own : UInt32 → Prop}

theorem during_of_asProcess {query : Local.Query} {answer : Local.Answer query}
    (answered : asProcess own period disk query answer after) : during period disk query answer after := by
  cases query with
  | processId => exact answered.2
  | _ => exact answered

theorem asProcess_of_during {query : Local.Query} {answer : Local.Answer query}
    (answered : during period disk query answer after) : asProcess (fun _ => True) period disk query answer after := by
  cases query with
  | processId => exact ⟨trivial, answered⟩
  | _ => exact answered

theorem ensures_asProcess {α : Type} {p : Program Local α} {post : α → Disk → Prop}
    (ensured : p.Ensures (during period) disk post) : p.Ensures (asProcess own period) disk post :=
  ensured.narrow during_of_asProcess

theorem ensures_processId_asProcess {post : UInt32 → Disk → Prop} :
    Local.processId.Ensures (asProcess own period) disk post ↔ ∀ id, own id → post id disk := by
  rw [Local.processId, Program.ensures_perform]
  constructor
  · exact fun each id owned => each id disk ⟨owned, rfl⟩
  · rintro each id _ ⟨owned, rfl⟩
    exact each id owned

/-! ## A machine that runs -/

/-- The machine at a time. -/
def showing (now : Instant) : (query : Local.Query) → Disk → Local.Answer query × Disk
  | .now, disk => (now, disk)
  | query, disk => act query disk

theorem during_showing {now : Instant} (held : Instant.IsYear now.date.year) (query : Local.Query) (disk : Disk)
    (done : works query disk = true) :
    during (· = now) disk query (showing now query disk).1 (showing now query disk).2 := by
  cases query with
  | now => exact ⟨rfl, held, rfl⟩
  | _ => exact onDisk_act _ disk done

theorem asProcess_showing {now : Instant} (owned : own 1) (held : Instant.IsYear now.date.year) (query : Local.Query)
    (disk : Disk) (done : works query disk = true) :
    asProcess own (· = now) disk query (showing now query disk).1 (showing now query disk).2 := by
  cases query with
  | processId => exact ⟨owned, rfl⟩
  | _ => exact during_showing held _ disk done

/-- A program that runs on the machine at a time, while the disk does not refuse. -/
theorem runs_asProcess {α : Type} {now : Instant} {p : Program Local α} {disk : Disk} (owned : own 1)
    (held : Instant.IsYear now.date.year) (done : p.asksOnly works (showing now) disk = true) :
    p.Runs (asProcess own (· = now)) disk (p.trace (showing now) disk) (p.run (showing now) disk).1
      (p.run (showing now) disk).2 :=
  Program.runs_asksOnly (asProcess_showing owned held) p disk done

theorem runs_showing {α : Type} {now : Instant} {p : Program Local α} {disk : Disk} {a : α}
    (held : Instant.IsYear now.date.year) (done : p.asksOnly works (showing now) disk = true)
    (ended : (p.run (showing now) disk).1 = some a) :
    p.Runs (during (· = now)) disk (p.trace (showing now) disk) (some a) (p.run (showing now) disk).2 := by
  have run := @runs_asProcess (fun _ => True) _ _ _ _ trivial held done
  rw [ended] at run
  exact run.mono during_of_asProcess

end Local

end CloudBalance
