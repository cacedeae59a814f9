import CloudBalance.Proofs.Interleaving
import CloudBalance.Proofs.Ledger.Lock
import Mathlib.Data.List.TakeWhile
import Mathlib.Data.Set.Insert

/-!
# Taking the lock side by side

Whoever takes the lock looks for its file first and writes it later, and others may come in between. Main
statement: of those who take the lock within less than the time in which it is held, it is given to all who
looked before anybody wrote and to no others, so that two may have it at once.
-/

namespace CloudBalance.Ledger.Store

open Disk (Entry)
open Program (OnlyAsked onlyAsked_nil own weave witnessing)
open Time (Instant)

variable {ι : Type} {store : Store} {period : Instant → Prop} {operation : String}

/-! ## What one relies on and what one does -/

/-- A lock that was taken in the period. -/
structure IsFresh (period : Instant → Prop) (lock : Lock) : Prop where
  taken : period lock.acquiredAt
  held : Instant.IsYear lock.acquiredAt.date.year

/-- The clock shows times of the period, the lock that is found was taken in it, and what is written is
written. -/
def ReliesOn (store : Store) (period : Instant → Prop) : (query : Local.Query) → Local.Answer query → Prop
  | .now, answer => period answer ∧ Instant.IsYear answer.date.year
  | .read path, answer => path = store.lockPath → ∃ lock, IsFresh period lock ∧ answer = .ok lock.bytes
  | .write _ _, answer | .makeDirectories _, answer => answer = .ok ()
  | _, _ => True

/-- Nothing is changed but that the directory is made and a lock of the period is written. -/
def MayAsk (store : Store) (period : Instant → Prop) : Local.Query → Prop
  | .write path bytes => path = store.lockPath ∧ ∃ lock, IsFresh period lock ∧ bytes = lock.bytes
  | .makeDirectories path => path = store.directory
  | .rename _ _ | .remove _ => False
  | _ => True

/-- What one saw who looked for the file of the lock. -/
def looks (store : Store) (asked : List Local.Event) : Set Bool :=
  {answer | ⟨.exists? store.lockPath, answer⟩ ∈ asked}

theorem mem_looks {asked : List Local.Event} {there : Bool} :
    there ∈ store.looks asked ↔ ⟨.exists? store.lockPath, there⟩ ∈ asked := by
  rw [looks, Set.mem_ofPred_eq]

@[simp] theorem looks_nil : store.looks [] = ∅ := by
  simp [looks]

theorem looks_look {past : List Local.Event} {answer : Bool} :
    store.looks (past ++ [⟨.exists? store.lockPath, answer⟩]) = store.looks past ∪ {answer} := by
  ext other
  simp [looks, or_comm]

theorem looks_other {past : List Local.Event} {query : Local.Query} {answer : Local.Answer query}
    (differs : query ≠ .exists? store.lockPath) : store.looks (past ++ [⟨query, answer⟩]) = store.looks past := by
  ext other
  have apart : (⟨.exists? store.lockPath, other⟩ : Local.Event) ≠ ⟨query, answer⟩ :=
    fun same => differs (congrArg Sigma.fst same).symm
  simp only [mem_looks, List.mem_append, List.mem_singleton, apart, or_false]

theorem directory_ne_lockPath : store.directory ≠ store.lockPath := by
  intro same
  have long := congrArg String.length same
  rw [lockPath, Path.join] at long
  -- whatever is put before the name, it is longer than that
  split at long
  · rename_i alone
    have empty : store.directory = "" := by simpa [isName_lock.relative] using alone
    rw [empty] at long
    cases long
  · have named : "lock.json".length = 9 := rfl
    split at long <;> simp only [String.length_append, named] at long <;> omega

variable {past : List Local.Event}

/-- A question that is not whether the lock is there. -/
theorem abides_other {query : Local.Query} {post : Local.Answer query → List Local.Event → Prop}
    (differs : query ≠ .exists? store.lockPath) (may : store.MayAsk period query)
    (clean : OnlyAsked (store.MayAsk period) past)
    (next : ∀ answer after, store.ReliesOn period query answer → OnlyAsked (store.MayAsk period) after →
      store.looks after = store.looks past → post answer after) :
    (Program.perform (S := Local) query).Abides (store.ReliesOn period) (store.MayAsk period) past post :=
  Program.abides_perform may clean fun answer relied still => next answer _ relied still (looks_other differs)

theorem abides_ensureDirectory (clean : OnlyAsked (store.MayAsk period) past) :
    store.ensureDirectory.run.Abides (store.ReliesOn period) (store.MayAsk period) past fun result after =>
      result = .ok () ∧ store.looks after = store.looks past := by
  have apart : Local.Query.exists? store.directory ≠ .exists? store.lockPath :=
    fun same => directory_ne_lockPath (Local.Query.exists?.inj same)
  simp only [ensureDirectory, Attempt.throughout_bind, Attempt.throughout_lift]
  refine abides_other apart trivial clean fun there after _ clean same => ?_
  cases there with
  | true => exact ⟨clean, rfl, same⟩
  | false =>
    simp only [Bool.not_false, if_true, Attempt.throughout_bind, Attempt.throughout_attempt,
      Attempt.throughout_lift]
    refine abides_other (by simp) rfl clean ?_
    rintro _ made rfl clean unlooked
    refine abides_other (by simp) trivial clean fun _ noted _ _ still => ?_
    exact ⟨trivial, still.trans (unlooked.trans same)⟩

theorem abides_holderName (clean : OnlyAsked (store.MayAsk period) past) :
    holderName.Abides (store.ReliesOn period) (store.MayAsk period) past fun _ after =>
      store.looks after = store.looks past := by
  simp only [holderName, Program.throughout_bind]
  refine abides_other (by simp) trivial clean fun name _ _ clean same => ?_
  cases name with
  | some name => exact ⟨clean, same⟩
  | none =>
    simp only [Program.throughout_bind]
    exact abides_other (by simp) trivial clean fun _ _ _ clean still => ⟨clean, still.trans same⟩

/-- Whoever sees that the lock is there is refused. -/
def Outcome (store : Store) (period : Instant → Prop) (result : Except CloudError Unit)
    (asked : List Local.Event) : Prop :=
  store.looks asked = {false} ∧ result = .ok () ∨
    store.looks asked = {true} ∧ ∃ lock, IsFresh period lock ∧ result = .error lock.heldError

variable (short : ∀ t u, period t → period u → u.minutesSince t < Lock.staleMinutes)
include short

theorem abides_checkLock (clean : OnlyAsked (store.MayAsk period) past) (blind : store.looks past = ∅) :
    store.checkLock.run.Abides (store.ReliesOn period) (store.MayAsk period) past (store.Outcome period) := by
  simp only [checkLock, Attempt.throughout_bind, Attempt.throughout_lift]
  refine Program.abides_perform trivial clean fun there _ clean => ?_
  have looked : store.looks (past ++ [⟨.exists? store.lockPath, there⟩]) = {there} := by
    rw [looks_look, blind, Set.empty_union]
  generalize past ++ [⟨.exists? store.lockPath, there⟩] = after at clean looked
  cases there with
  | false => exact ⟨clean, .inl ⟨looked, rfl⟩⟩
  | true =>
    simp only [if_true, Attempt.throughout_bind, Attempt.throughout_attempt, Local.readText,
      Program.throughout_bind]
    refine abides_other (by simp) trivial clean fun answer read found clean same => ?_
    obtain ⟨lock, fresh, rfl⟩ := found rfl
    simp only [Lock.bytes, Text.decode?_encode, Program.pure_def, Program.throughout_done, Except.mapError,
      Lock.decode?_pretty fresh.held, Attempt.throughout_bind, Attempt.throughout_lift]
    refine ⟨clean, abides_other (by simp) trivial clean ?_⟩
    rintro now _ ⟨shown, _⟩ clean unlooked
    rw [if_neg (by simpa [isStale_iff, isHeld_some] using short _ _ fresh.taken shown)]
    exact ⟨clean, .inr ⟨unlooked.trans (same.trans looked), lock, fresh, rfl⟩⟩

theorem abides_acquireLock :
    (store.acquireLock operation).run.Abides (store.ReliesOn period) (store.MayAsk period) []
      (store.Outcome period) := by
  rw [Program.Abides, acquireLock, Attempt.throughout_bind]
  refine (abides_ensureDirectory onlyAsked_nil).mono ?_
  rintro _ made clean ⟨rfl, blind⟩
  dsimp only
  rw [Attempt.throughout_bind]
  refine (abides_checkLock short clean (blind.trans looks_nil)).mono ?_
  rintro _ checked clean (⟨looked, rfl⟩ | ⟨looked, lock, fresh, rfl⟩)
  · simp only [Attempt.throughout_bind, Attempt.throughout_lift, Attempt.throughout_attempt]
    refine (abides_holderName clean).mono fun holder named clean kept => ?_
    refine abides_other (by simp) trivial clean fun id _ _ clean kept' => ?_
    refine abides_other (by simp) trivial clean ?_
    rintro now _ ⟨shown, year⟩ clean kept''
    refine abides_other (by simp) ⟨rfl, ⟨holder, operation, id, now⟩, ⟨shown, year⟩, rfl⟩ clean ?_
    rintro _ written rfl clean kept'''
    refine abides_other (by simp) trivial clean fun _ noted _ _ still => ?_
    exact .inl ⟨by rw [still, kept''', kept'', kept', kept, looked], rfl⟩
  · exact .inr ⟨looked, lock, fresh, rfl⟩

omit short

/-! ## What is shared -/

/-- Somebody writes the lock. -/
def writesLock (store : Store) (event : (Local.labelled ι).Event) : Bool :=
  match event.1.2 with
  | .write path _ => path = store.lockPath
  | _ => false

/-- What happens before anybody writes the lock. -/
def early (store : Store) (events : List (Local.labelled ι).Event) : List (Local.labelled ι).Event :=
  events.takeWhile fun event => !store.writesLock event

/-- Somebody looks for the lock before anybody writes it. -/
def LooksEarly (store : Store) (events : List (Local.labelled ι).Event) (i : ι) : Prop :=
  ∃ there, ⟨(i, .exists? store.lockPath), there⟩ ∈ store.early events

/-- The lock lies there once it is written, and whoever looks for it before does not find it. -/
structure Shared (store : Store) (period : Instant → Prop) (events : List (Local.labelled ι).Event)
    (disk : Disk) : Prop where
  lies : ∃ contents, store.Holds disk contents ∧
    if events.any store.writesLock then ∃ lock, IsFresh period lock ∧ contents "lock.json" = some (.file lock.bytes)
    else contents "lock.json" = none
  missed : ∀ i, ⟨(i, .exists? store.lockPath), false⟩ ∈ events → store.LooksEarly events i
  looked : ∀ i there, ⟨(i, .exists? store.lockPath), there⟩ ∈ store.early events → there = false

variable {events past : List (Local.labelled ι).Event} {event other : (Local.labelled ι).Event} {disk after : Disk}
  {contents : String → Option Entry}

theorem mem_early_append : other ∈ store.early (events ++ [event]) ↔
    other ∈ store.early events ∨
      (events.any store.writesLock = false ∧ store.writesLock event = false ∧ other = event) := by
  cases written : events.any store.writesLock with
  | true =>
    -- the events that come later are late
    have stops : (events.takeWhile fun event => !store.writesLock event).length ≠ events.length := by
      intro whole
      have all := List.takeWhile_eq_self_iff.mp (List.takeWhile_prefix _ |>.eq_of_length whole)
      obtain ⟨event, member, writes⟩ := List.any_eq_true.mp written
      simpa [writes] using all event member
    rw [early, List.takeWhile_append, if_neg stops]
    simp [early]
  | false =>
    have none : ∀ event ∈ events, (!store.writesLock event) = true := by
      simpa using written
    rw [early, early, List.takeWhile_append_of_pos none, List.takeWhile_eq_self_iff.mpr none, List.mem_append]
    cases writes : store.writesLock event <;> simp [writes]

theorem LooksEarly.append {i : ι} (looks : store.LooksEarly events i) :
    store.LooksEarly (events ++ [event]) i := by
  obtain ⟨there, member⟩ := looks
  exact ⟨there, mem_early_append.mpr (.inl member)⟩

theorem any_writesLock_append (silent : store.writesLock event = false) :
    (past ++ [event]).any store.writesLock = past.any store.writesLock := by
  rw [List.any_append, List.any_cons, List.any_nil, silent, Bool.or_false, Bool.or_false]

/-- Whoever asks neither for the lock nor writes it changes nothing about it. -/
theorem Shared.append (shared : store.Shared period past disk) (silent : store.writesLock event = false)
    (differs : event.1.2 ≠ .exists? store.lockPath)
    (same : ∀ contents, store.Holds disk contents → store.Holds after contents) :
    store.Shared period (past ++ [event]) after where
  lies := by
    obtain ⟨contents, holds, lies⟩ := shared.lies
    rw [← any_writesLock_append silent] at lies
    exact ⟨contents, same contents holds, lies⟩
  missed i member := by
    rcases List.mem_append.mp member with old | new
    · exact (shared.missed i old).append
    · cases List.mem_singleton.mp new
      exact absurd rfl differs
  looked i there member := by
    rcases mem_early_append.mp member with old | ⟨_, _, rfl⟩
    · exact shared.looked i there old
    · exact absurd rfl differs

theorem Shared.append_look (shared : store.Shared period past disk) (i : ι) :
    store.Shared period (past ++ [⟨(i, .exists? store.lockPath), disk.exists? store.lockPath⟩]) disk := by
  obtain ⟨contents, holds, lies⟩ := shared.lies
  have seen : disk.exists? store.lockPath = past.any store.writesLock := by
    rw [lockPath, holds.exists?_file isName_lock]
    cases written : past.any store.writesLock with
    | true =>
      rw [written, if_pos rfl] at lies
      obtain ⟨lock, _, found⟩ := lies
      rw [found]
      rfl
    | false =>
      rw [written, if_neg Bool.false_ne_true] at lies
      rw [lies]
      rfl
  have silent : store.writesLock
      (⟨(i, .exists? store.lockPath), past.any store.writesLock⟩ : (Local.labelled ι).Event) = false := rfl
  rw [seen]
  refine ⟨⟨contents, holds, ?_⟩, fun j member => ?_, fun j there member => ?_⟩
  · rw [any_writesLock_append silent]
    exact lies
  · rcases List.mem_append.mp member with old | new
    · exact (shared.missed j old).append
    · have missing := List.mem_singleton.mp new
      have unwritten : j = i ∧ false = past.any store.writesLock := by simpa using missing
      exact ⟨false, mem_early_append.mpr (.inr ⟨unwritten.2.symm, rfl, missing⟩)⟩
  · rcases mem_early_append.mp member with old | ⟨unwritten, _, same⟩
    · exact shared.looked j there old
    · cases same
      exact unwritten

theorem Shared.append_write (shared : store.Shared period past disk) {i : ι} {lock : Lock}
    (fresh : IsFresh period lock) (written : disk.write store.lockPath lock.bytes = .ok after)
    {answer : Except FileError Unit} :
    store.Shared period (past ++ [⟨(i, .write store.lockPath lock.bytes), answer⟩]) after := by
  obtain ⟨contents, holds, _⟩ := shared.lies
  have writes : store.writesLock (⟨(i, .write store.lockPath lock.bytes), answer⟩ : (Local.labelled ι).Event) = true :=
    decide_eq_true rfl
  refine ⟨⟨_, holds.write_file isName_lock written, ?_⟩, fun j member => ?_, fun j there member => ?_⟩
  · rw [if_pos (by simp [writes])]
    exact ⟨lock, fresh, Function.update_self _ _ _⟩
  · rcases List.mem_append.mp member with old | new
    · exact (shared.missed j old).append
    · cases List.mem_singleton.mp new
  · rcases mem_early_append.mp member with old | ⟨_, silent, _⟩
    · exact shared.looked j there old
    · rw [writes] at silent
      cases silent

/-- Whoever asks as he may, and relies on no more than he may, can do so among others. -/
theorem protocol_shared :
    Program.Protocol (Local.during period) (store.ReliesOn period) (store.MayAsk period)
      (store.Shared period : List (Local.labelled ι).Event → Disk → Prop) where
  told {past disk query answer after} shared answered := by
    cases query with
    | now => exact ⟨answered.1, answered.2.1⟩
    | read path =>
      rintro rfl
      obtain ⟨bytes, read, rfl, rfl⟩ := answered
      obtain ⟨contents, holds, lies⟩ := shared.lies
      rw [lockPath, holds.read_file isName_lock] at read
      rw [read] at lies
      split at lies
      · obtain ⟨lock, fresh, same⟩ := lies
        cases same
        exact ⟨lock, fresh, rfl⟩
      · cases lies
    | write | makeDirectories => exact answered.2
    | _ => trivial
  kept {past disk query answer after} i shared may answered := by
    cases query with
    | exists? path =>
      obtain ⟨rfl, rfl⟩ := answered
      by_cases looks : path = store.lockPath
      · subst looks
        exact shared.append_look i
      · exact shared.append rfl (fun same => looks (Local.Query.exists?.inj same)) fun _ holds => holds
    | write path bytes =>
      obtain ⟨rfl, lock, fresh, rfl⟩ := may
      exact shared.append_write fresh answered.1
    | makeDirectories path =>
      obtain rfl := may
      exact shared.append rfl (by simp) fun _ holds => holds.makeDirectory answered.1
    | rename | remove => exact may.elim
    | now =>
      obtain ⟨_, _, rfl⟩ := answered
      exact shared.append rfl (by simp) fun _ holds => holds
    | read path =>
      obtain ⟨_, _, _, rfl⟩ := answered
      exact shared.append rfl (by simp) fun _ holds => holds
    | isDirectory path =>
      obtain ⟨_, rfl⟩ := answered
      exact shared.append rfl (by simp) fun _ holds => holds
    | workingDirectory | environmentVariable | processId | log =>
      obtain rfl := answered
      exact shared.append rfl (by simp) fun _ holds => holds

/-! ## Who has the lock -/

/-- Of those who take the lock side by side, all within less than the time in which it is held, it is given to
each who looks for it before anybody has written it. The others learn who has it. -/
theorem acquires_iff_looksEarly [DecidableEq ι] (holds : store.Holds disk contents)
    (free : contents "lock.json" = none)
    (short : ∀ t u, period t → period u → u.minutesSince t < Lock.staleMinutes) {operations : ι → String}
    {turns : List ι} {results : ι → Option (Except CloudError Unit)}
    (run : (weave turns fun i => (store.acquireLock (operations i)).run).Runs (Local.during period).labelled disk
      events (some results) after) {i : ι} {result : Except CloudError Unit} (returned : results i = some result) :
    (result = .ok () ↔ store.LooksEarly events i) ∧
      (result ≠ .ok () → ∃ lock, IsFresh period lock ∧ result = .error lock.heldError) := by
  have start : store.Shared period ([] : List (Local.labelled ι).Event) disk :=
    ⟨⟨contents, holds, free⟩, by simp, by simp [early]⟩
  obtain ⟨shared, each⟩ := protocol_shared.runs_weave start (fun i => abides_acquireLock short) run
  rw [List.nil_append] at shared each
  have seen : ∀ there, there ∈ store.looks (own i events) ↔ ⟨(i, .exists? store.lockPath), there⟩ ∈ events :=
    fun there => mem_looks.trans Program.mem_own
  rcases each i result returned with ⟨looked, rfl⟩ | ⟨looked, lock, fresh, rfl⟩
  · have missed := shared.missed i ((seen false).mp (by rw [looked]; exact Set.mem_singleton _))
    exact ⟨iff_of_true rfl missed, fun failed => absurd rfl failed⟩
  · refine ⟨iff_of_false (by simp) ?_, fun _ => ⟨lock, fresh, rfl⟩⟩
    rintro ⟨there, member⟩
    have first := shared.looked i there member
    have found : there ∈ store.looks (own i events) :=
      (seen there).mpr ((List.takeWhile_prefix _).subset member)
    rw [looked, first] at found
    cases Set.mem_singleton_iff.mp found

/-- One of two has looked for the lock when the other takes it, and takes it after him. -/
def overtaken : List Bool :=
  List.replicate 4 false ++ List.replicate 8 true ++ List.replicate 6 false

theorem acquires_overtaken :
    ∃ events results after,
      (weave overtaken fun _ => (atRoot.acquireLock "").run).Runs
        (Local.during (· = default)).labelled ⟨[], []⟩ events (some results) after ∧
      ∀ i, results i = some (.ok ()) ∧ atRoot.LooksEarly events i := by
  have done : (weave overtaken fun _ => (atRoot.acquireLock "").run).asksOnly
      (Program.mayAny Local.works) (Program.handleAny (Local.showing default)) ⟨[], []⟩ = true := by
    decide +kernel
  have both : ((weave overtaken fun _ => (atRoot.acquireLock "").run).run
      (Program.handleAny (Local.showing default)) ⟨[], []⟩).1.map (fun results => (results false, results true)) =
        some (some (.ok ()), some (.ok ())) := by
    decide +kernel
  have short : ∀ t u : Instant, t = default → u = default → u.minutesSince t < Lock.staleMinutes := by
    rintro _ _ rfl rfl
    decide
  obtain ⟨results, ended, gained⟩ := Option.map_eq_some_iff.mp both
  obtain ⟨events, after, run⟩ :=
    Program.exists_run_handleAny (Local.during_showing Instant.isYear_default) done ended
  refine ⟨events, results, after, run, fun i => ?_⟩
  have returned : results i = some (.ok ()) := by
    cases i with
    | false => exact congrArg Prod.fst gained
    | true => exact congrArg Prod.snd gained
  exact ⟨returned, (acquires_iff_looksEarly holds_empty rfl short run returned).1.mp rfl⟩

end CloudBalance.Ledger.Store
