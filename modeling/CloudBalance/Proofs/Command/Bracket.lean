import CloudBalance.Proofs.Command.History
import CloudBalance.Proofs.Ledger.Guard

/-!
# Commands and the lock

The commands that make and destroy balancers, on a machine on which files may fail but can be removed. Main
statement: where the lock is not to be had, a command asks nothing of the service and changes no file, but where the
file of the lock could not be written a part of it may be left; where the lock is had, it is given back when the
command returns, whatever failed on the way.
-/

namespace CloudBalance.Session

open Ledger (Store)
open Net (Address)

variable {α : Type} {store : Store} {disk : Disk} {machine : Environment Local Disk} {inv : Disk → Prop}
  {operation : String} {s after : Surroundings}

/-! ## What is kept -/

theorem keeps_ofLocal {p : Attempt Local CloudError α} (keeps : p.run.Keeps machine inv) :
    (ofLocal p).run.Keeps (onMachine machine) fun s => inv s.disk :=
  fun s here => ensures_ofLocal_onMachine.mpr (keeps s.disk here)

/-- The service has no part in the disk. -/
theorem keeps_ofService {p : Attempt Service CloudError α} :
    (ofService p).run.Keeps (onMachine machine) fun s => inv s.disk := by
  intro s here events result after run
  obtain ⟨_, _, own, _, _⟩ := runs_ofService.mp run
  rw [runs_service own]
  exact here

theorem keeps_print {line : Terminal.Line} : (print line).Keeps (onMachine machine) fun s => inv s.disk := by
  intro s here
  rw [print, Program.ensures_perform]
  rintro _ _ rfl
  exact here

theorem keeps_printAll {lines : List Terminal.Line} :
    (printAll lines).Keeps (onMachine machine) fun s => inv s.disk := by
  induction lines with
  | nil => exact .done _
  | cons line lines ih => exact keeps_print.bind fun _ => ih

/-! ## Recording -/

theorem within_insertOutcomes {provider : String} {spec : BalancerSpec} (made : List (Location × Outcome))
    (ledger : Ledger) : (insertOutcomes provider spec ledger made).Within Local.looking := by
  induction made generalizing ledger with
  | nil => trivial
  | cons outcome made ih => exact Local.within_now.bind fun _ => ih _

theorem keeps_recordReport {provider : String} {spec : BalancerSpec} {made : Report} :
    (recordReport store provider spec made).run.Keeps Local.steady store.Guarded := by
  intro disk guarded
  rw [recordReport, Attempt.ensures_bind]
  refine (Store.ensures_load_faltering.narrow Local.faltering_of_steady).mono ?_
  rintro result _ ⟨rfl, loaded⟩
  cases result with
  | error e => exact guarded
  | ok ledger =>
    dsimp only
    rw [Attempt.ensures_bind, Attempt.ensures_lift]
    refine (Local.ensures_looking_steady (within_insertOutcomes _ _)).mono ?_
    rintro updated _ rfl
    exact (Store.ensures_save_guarded guarded (loaded _ rfl).file _).narrow Local.faltering_of_steady

theorem keeps_forget {address : Address} :
    (forget store address).run.Keeps Local.steady store.Guarded := by
  intro disk guarded
  rw [forget, Attempt.ensures_bind]
  refine (Store.ensures_load_faltering.narrow Local.faltering_of_steady).mono ?_
  rintro result _ ⟨rfl, loaded⟩
  cases result with
  | error e => exact guarded
  | ok ledger =>
    dsimp only
    rw [Attempt.ensures_bind, Attempt.ensures_lift]
    refine (Local.ensures_looking_steady Local.within_now).mono ?_
    rintro now _ rfl
    dsimp only
    split
    · rename_i left _
      have saved := Store.ensures_save_guarded guarded (loaded _ rfl).file left
      rw [Attempt.ensures_bind]
      refine (saved.narrow Local.faltering_of_steady).mono fun result after guarded => ?_
      cases result with
      | error e => exact guarded
      | ok _ => exact Attempt.ensures_pure.mpr guarded
    · exact Attempt.ensures_pure.mpr guarded

/-! ## Work under the lock -/

/-- The lock is given back, whatever comes of the work. -/
theorem ensures_givingBack_guarded {work : Act α}
    (keeps : work.run.Keeps (onMachine Local.steady) fun s => store.Guarded s.disk)
    (guarded : store.Guarded s.disk) :
    (givingBack store work).run.Ensures (onMachine Local.steady) s fun _ after =>
      store.Free after.disk :=
  ensures_givingBack (keeps s guarded) (fun _ _ guarded => Store.ensures_releaseLock_guarded guarded)
    fun _ _ guarded => Store.ensures_dropLock_guarded guarded

theorem keeps_makeAndKeep {providers : Providers} {spec : BalancerSpec} {selection : Terminal.Selection} :
    (makeAndKeep providers store spec selection).run.Keeps (onMachine Local.steady) fun s =>
      store.Guarded s.disk := by
  have keeping : ∀ made, (keep providers store spec made).run.Keeps (onMachine Local.steady) fun s =>
      store.Guarded s.disk := by
    intro made
    rw [keep]
    refine Attempt.keeps_bind (Attempt.keeps_lift keeps_print) fun _ => ?_
    refine Attempt.keeps_bind (Attempt.keeps_lift keeps_printAll) fun _ => ?_
    exact keeps_ofLocal keeps_recordReport
  rw [makeAndKeep, makeAll]
  refine Attempt.keeps_bind ?_ fun creation => ?_
  · refine Attempt.keeps_bind (Attempt.keeps_outcome keeps_ofService) fun made => ?_
    split
    · exact .done _
    · exact .done _
    · exact .done _
  · cases creation with
    | nothing => exact .done _
    | made made => exact Attempt.keeps_bind (keeping made) fun _ => .done _
    | stopped location created cause =>
      dsimp only
      split
      · refine Attempt.keeps_bind (keeping created) fun _ => ?_
        exact Attempt.keeps_bind (Attempt.keeps_lift keeps_print) fun _ => .done _
      · exact .done _

/-! ## Commands -/

/-- What becomes of the lock for an operation in a run of a command. -/
inductive Brackets (store : Store) (operation : String) (disk : Disk) (events : List Session.Event)
    (result : Except CommandError Unit) (after : Surroundings) : Prop where
  /-- The lock is not to be had. Besides the machine nobody is asked anything, and the files are spared. -/
  | refused {line : Terminal.Line} {locking : List Local.Event} {e : CloudError}
      (tried : (store.acquireLock operation).run.Runs Local.steady disk locking (some (.error e)) after.disk)
      (idle : events = ⟨.print line, ()⟩ :: locking.map localPart.event) (failed : result = .error (.cloud e))
      (spares : store.Spares operation disk locking after.disk)
  /-- The lock is had, and at the end it is not there. -/
  | held {line : Terminal.Line} {locking : List Local.Event} {rest : List Session.Event} {locked : Disk}
      (taken : (store.acquireLock operation).run.Runs Local.steady disk locking (some (.ok ())) locked)
      (begins : events = ⟨.print line, ()⟩ :: (locking.map localPart.event ++ rest))
      (returned : after.disk.find? store.lockPath = none)

variable {events : List Session.Event} {result : Except CommandError Unit}

/-- What begins with work under the lock begins with taking the lock. -/
theorem runs_withLock_bind {work : Act α} {rest : α → Act Unit}
    (run : (withLock store operation work >>= rest).run.Runs (onMachine machine) s events (some result) after) :
    (∃ locking e, (store.acquireLock operation).run.Runs machine s.disk locking (some (.error e)) after.disk ∧
      events = locking.map localPart.event ∧ result = .error (.cloud e)) ∨
    ∃ locking locked later, (store.acquireLock operation).run.Runs machine s.disk locking (some (.ok ()))
        locked.disk ∧
      events = locking.map localPart.event ++ later ∧
      (givingBack store work >>= rest).run.Runs (onMachine machine) locked later (some result) after := by
  rw [withLock_eq, bind_assoc] at run
  rcases Attempt.runs_bind.mp run with ⟨_, _, locked, later, taking, tail, rfl⟩ | ⟨_, failing, ended⟩ | ⟨_, impossible⟩
  · obtain ⟨locking, value, taken, _, rfl, same⟩ := runs_ofLocal.mp taking
    obtain ⟨done, rfl, ok⟩ := Option.map_eq_some_iff.mp same.symm
    cases done with
    | error e => cases ok
    | ok _ => exact .inr ⟨locking, locked, later, taken, rfl, tail⟩
  · cases ended
    obtain ⟨locking, value, tried, _, rfl, same⟩ := runs_ofLocal.mp failing
    obtain ⟨done, rfl, failed⟩ := Option.map_eq_some_iff.mp same.symm
    cases done with
    | ok _ => cases failed
    | error e =>
      cases failed
      exact .inl ⟨locking, e, tried, rfl, rfl⟩
  · cases impossible

/-- What begins with work under the lock ends where the lock is not to be had. -/
theorem runs_withLock_refused {work : Act α} {rest : α → Act Unit} {locking : List Local.Event} {e : CloudError}
    {left : Disk} (tried : (store.acquireLock operation).run.Runs machine s.disk locking (some (.error e)) left) :
    (withLock store operation work >>= rest).run.Runs (onMachine machine) s (locking.map localPart.event)
      (some (.error (.cloud e))) ⟨left, s.asked⟩ := by
  rw [withLock_eq, bind_assoc]
  exact Attempt.runs_bind.mpr (.inr (.inl ⟨_, runs_ofLocal.mpr ⟨locking, _, tried, rfl, rfl, rfl⟩, rfl⟩))

theorem brackets_withLock {line : Terminal.Line} {work : Act α} {rest : α → Act Unit} (placed : store.Placed disk)
    (keeps : work.run.Keeps (onMachine Local.steady) fun s => store.Guarded s.disk)
    (ends : ∀ a, (rest a).run.Keeps (onMachine Local.steady) fun s => store.Free s.disk)
    (run : ((liftM (print line) : Act Unit) >>= fun _ => withLock store operation work >>= rest).run.Runs
      (onMachine Local.steady) ⟨disk, []⟩ events (some result) after) :
    Brackets store operation disk events result after := by
  rcases Attempt.runs_lift_bind.mp run with ⟨_, _, between, _, printed, tail, rfl⟩ | ⟨_, impossible⟩
  · obtain ⟨_, same, rfl, _⟩ := Program.runs_perform.mp printed
    obtain rfl : between = ⟨disk, []⟩ := same
    rcases runs_withLock_bind tail with ⟨locking, e, tried, rfl, rfl⟩ | ⟨locking, locked, later, taken, rfl, body⟩
    · exact .refused tried rfl rfl (Store.spares_of_refused placed (tried.mono Local.faltering_of_steady))
    · have guarded := Store.guarded_of_taken placed (taken.mono Local.faltering_of_steady)
      have returned : (givingBack store work >>= rest).run.Ensures (onMachine Local.steady) locked
          fun _ after => store.Free after.disk := by
        rw [Attempt.ensures_bind]
        refine (ensures_givingBack_guarded keeps guarded).mono fun result after free => ?_
        cases result with
        | ok a => exact ends a after free
        | error e => exact free
      exact .held taken rfl (returned _ _ _ body)
  · cases impossible

theorem brackets_create {providers : Providers} {request : CreateRequest} {protocol : Protocol}
    (placed : store.Placed disk) (known : Protocol.parse request.protocol = .ok protocol)
    (run : (create providers store request).run.Runs (onMachine Local.steady) ⟨disk, []⟩ events (some result) after) :
    Brackets store ("lb create " ++ request.name) disk events result after := by
  rw [create, known] at run
  refine brackets_withLock placed keeps_makeAndKeep (fun creation => ?_) run
  cases creation with
  | nothing =>
    exact Attempt.keeps_bind (Attempt.keeps_lift keeps_print) fun _ => Attempt.keeps_lift keeps_print
  | made made => exact Attempt.keeps_lift keeps_printAll
  | stopped location created cause => exact .done _

theorem brackets_destroy {address : Address} (placed : store.Placed disk)
    (run : (destroy store address).run.Runs (onMachine Local.steady) ⟨disk, []⟩ events (some result) after) :
    Brackets store ("lb destroy " ++ address.text) disk events result after := by
  rw [destroy] at run
  rw [← bind_pure (withLock store _ _)] at run
  refine brackets_withLock placed ?_ (fun _ => .done _) run
  refine Attempt.keeps_bind keeps_ofService fun _ => ?_
  refine Attempt.keeps_bind (keeps_ofLocal keeps_forget) fun _ => ?_
  exact Attempt.keeps_bind (Attempt.keeps_lift keeps_print) fun _ => Attempt.keeps_lift keeps_print

/-- Where the lock is not to be had, a command asks nothing of the service, and no byte of the ledger and the copy
beside it changes. None of the lock does either, unless what failed was to write its file; then any part of what was
to be written may be left there. Where the lock is had, it is not there any more when the command returns. So it is
whatever lies on the disk, whatever the service answers and whichever operations on files fail, but what can be removed
is removed: a write that fails may leave any part of what it writes, and whatever else fails changes nothing. -/
theorem brackets_commands (placed : store.Placed disk) :
    (∀ providers request protocol events result after, Protocol.parse request.protocol = .ok protocol →
      (create providers store request).run.Runs (onMachine Local.steady) ⟨disk, []⟩ events (some result) after →
      Brackets store ("lb create " ++ request.name) disk events result after) ∧
    ∀ address events result after,
      (destroy store address).run.Runs (onMachine Local.steady) ⟨disk, []⟩ events (some result) after →
      Brackets store ("lb destroy " ++ address.text) disk events result after :=
  ⟨fun _ _ _ _ _ _ known run => brackets_create placed known run, fun _ _ _ _ run => brackets_destroy placed run⟩

theorem runs_steady {p : Act α} {service : (q : Service.Query) → List Service.Event → Service.Answer q}
    {value : Except CommandError α}
    (done : p.run.asksOnly works (act service) s = true)
    (ended : (p.run.run (act service) s).1 = some value) :
    p.run.Runs (onMachine Local.steady) s (p.run.trace (act service) s) (some value) (ran service p s) := by
  have run := runs_act service p s done
  rw [ended, onDisk_eq] at run
  exact run.mono (onMachine_mono Local.steady_of_onDisk)

/-- A project with a file that holds neither a lock nor a ledger. -/
def illegible (name : String) : Disk :=
  filled [([".nimbus", name], .file (Text.encode "not json"))]

theorem at_illegible (name : String) : project.At (illegible name) [] :=
  at_filled (by simp)

theorem brackets_commands_illegible :
    (∃ events after, (create sakura project webRequest).run.Runs (onMachine Local.steady)
        ⟨illegible "lock.json", []⟩ events (some (.error (.cloud .malformed))) after ∧
      Brackets project "lb create web" (illegible "lock.json") events (.error (.cloud .malformed)) after) ∧
    ∃ events after, (destroy project (.v4 203 0 113 9)).run.Runs (onMachine Local.steady)
        ⟨illegible "state.json", []⟩ events (some (.error (.cloud .malformed))) after ∧
      Brackets project "lb destroy 203.0.113.9" (illegible "state.json") events (.error (.cloud .malformed)) after := by
  have refused : ((create sakura project webRequest).run.run (act (oneZone (.v4 203 0 113 9)))
      ⟨illegible "lock.json", []⟩).1 = some (.error (.cloud .malformed)) := by
    decide +kernel
  have making := runs_steady (by decide +kernel) refused
  have unread : ((destroy project (.v4 203 0 113 9)).run.run (act (oneZone (.v4 203 0 113 9)))
      ⟨illegible "state.json", []⟩).1 = some (.error (.cloud .malformed)) := by
    decide +kernel
  have ending := runs_steady (by decide +kernel) unread
  have creates := (brackets_commands (.inl ⟨_, at_illegible "lock.json"⟩)).1 _ _ .http _ _ _ rfl making
  have destroys := (brackets_commands (.inl ⟨_, at_illegible "state.json"⟩)).2 _ _ _ _ ending
  exact ⟨⟨_, _, making, creates⟩, ⟨_, _, ending, destroys⟩⟩

theorem exists_run_create_refused {providers : Providers} {request : CreateRequest} {protocol : Protocol}
    {locking : List Local.Event} {e : CloudError} {left : Disk}
    (known : Protocol.parse request.protocol = .ok protocol)
    (tried : (store.acquireLock ("lb create " ++ request.name)).run.Runs machine s.disk locking (some (.error e))
      left) :
    ∃ line, (create providers store request).run.Runs (onMachine machine) s
      (⟨.print line, ()⟩ :: locking.map localPart.event) (some (.error (.cloud e))) ⟨left, s.asked⟩ := by
  rw [create, known]
  exact ⟨_, Attempt.runs_lift_bind.mpr (.inl ⟨_, _, _, _, .ask rfl (.done _ _), runs_withLock_refused tried, rfl⟩)⟩

/-- There is no lock and it is not to be had, since there is no space for its file. After that the file is there. -/
theorem not_spared_where_torn :
    ∃ line locking e after,
      (project.acquireLock "lb create web").run.Runs Local.steady blank locking (some (.error e)) after.disk ∧
      (create sakura project webRequest).run.Runs (onMachine Local.steady) ⟨blank, []⟩
        (⟨.print line, ()⟩ :: locking.map localPart.event) (some (.error (.cloud e))) after ∧
      blank.find? project.lockPath = none ∧ after.disk.find? project.lockPath = some (.file .empty) := by
  have taken : (project.acquireLock "lb create web").run.Runs Local.onDisk blank _ (some (.ok ())) _ :=
    Local.runs_act rfl rfl
  obtain ⟨looked, lock, _, torn⟩ := Store.exists_run_torn (.inl ⟨_, at_blank⟩) (taken.mono Local.steady_of_onDisk)
  obtain ⟨left, tried, lies⟩ := torn .empty lock.bytes (.other "No space left on device") ByteArray.empty_append.symm
  have known : Protocol.parse webRequest.protocol = .ok .http := rfl
  obtain ⟨line, run⟩ : ∃ line, (create sakura project webRequest).run.Runs (onMachine Local.steady) ⟨blank, []⟩
      (⟨.print line, ()⟩ :: _) _ ⟨left, []⟩ :=
    exists_run_create_refused known tried
  exact ⟨line, _, _, ⟨left, []⟩, tried, run, rfl, lies⟩

end CloudBalance.Session
