import CloudBalance.Command.Nodes
import CloudBalance.Proofs.Ledger.Store
import CloudBalance.Proofs.Scope

/-!
# Commands in a project

A command that works on a machine on which files work, with a service that may answer anything. Main
statements: what each part of a command ensures, and that work under the lock ensures what it ensures by
itself, with nothing changed besides but the lock.
-/

namespace CloudBalance.Session

open Disk (Entry)
open Ledger (Store)

/-- Where a command runs: the disk, and what the service was asked so far and what it answered. -/
@[ext]
structure Surroundings where
  disk : Disk
  asked : List Service.Event

/-- The questions of the local machine are answered by a machine on which files work; the service
answers what it likes. -/
def onDisk : Environment Session Surroundings
  | before, .here query, answer, after =>
    Local.onDisk before.disk query answer after.disk ∧ after.asked = before.asked
  | before, .service query, answer, after => after = ⟨before.disk, before.asked ++ [⟨query, answer⟩]⟩
  | before, .authStatus _, _, after => after = before
  | before, .print _, _, after => after = before

/-- The questions of the local machine among those of a command. -/
def localPart : Program.Part Local Session :=
  ⟨.here, fun _ => rfl⟩

/-- The questions of the service among those of a command. -/
def servicePart : Program.Part Service Session :=
  ⟨.service, fun _ => rfl⟩

variable {α : Type} {s : Surroundings}

/-- A session on a machine, which answers the questions that are put to it; the service answers what it likes. -/
def onMachine (machine : Environment Local Disk) : Environment Session Surroundings
  | before, .here query, answer, after => machine before.disk query answer after.disk ∧ after.asked = before.asked
  | before, .service query, answer, after => after = ⟨before.disk, before.asked ++ [⟨query, answer⟩]⟩
  | before, .authStatus _, _, after => after = before
  | before, .print _, _, after => after = before

theorem onDisk_eq : onDisk = onMachine Local.onDisk := by
  funext before query answer after
  cases query <;> rfl

variable {machine : Environment Local Disk}

theorem onMachine_mono {wider : Environment Local Disk}
    (more : ∀ {disk query answer after}, machine disk query answer after → wider disk query answer after)
    {before after : Surroundings} {query : Session.Query} {answer : Session.Answer query}
    (answered : onMachine machine before query answer after) : onMachine wider before query answer after := by
  cases query with
  | here query => exact ⟨more answered.1, answered.2⟩
  | service | authStatus | print => exact answered

theorem runs_local {p : Program Local α} {events : List Local.Event} {result : Option α}
    {after : Surroundings} :
    p.Runs (localPart.environment (onMachine machine)) s events result after ↔
      p.Runs machine s.disk events result after.disk ∧ after.asked = s.asked := by
  induction p generalizing s events with
  | done a =>
    simp only [Program.runs_done, Surroundings.ext_iff, and_assoc]
  | halt =>
    simp only [Program.runs_halt, Surroundings.ext_iff, and_assoc]
  | ask query next ih =>
    simp only [Program.runs_ask, ih]
    constructor
    · rintro ⟨answer, between, rest, ⟨answered, same⟩, rfl, run, kept⟩
      exact ⟨⟨answer, between.disk, rest, answered, rfl, run⟩, kept.trans same⟩
    · rintro ⟨⟨answer, between, rest, answered, rfl, run⟩, kept⟩
      exact ⟨answer, ⟨between, s.asked⟩, rest, ⟨answered, rfl⟩, rfl, run, kept⟩

theorem runs_service {p : Program Service α} {events : List Service.Event} {result : Option α}
    {after : Surroundings} (run : p.Runs (servicePart.environment (onMachine machine)) s events result after) :
    after = ⟨s.disk, s.asked ++ events⟩ := by
  induction run with
  | done => simp
  | halt => simp
  | ask answered _ ih =>
    cases answered
    rw [ih, List.append_assoc]
    rfl

/-- What is done on the local machine is a run of its own. -/
theorem runs_ofLocal {p : Attempt Local CloudError α} {events : List Session.Event}
    {result : Option (Except CommandError α)} {after : Surroundings} :
    (ofLocal p).run.Runs (onMachine machine) s events result after ↔
      ∃ own value, p.run.Runs machine s.disk own value after.disk ∧ after.asked = s.asked ∧
        events = own.map localPart.event ∧ result = value.map (·.mapError .cloud) := by
  refine Program.runs_map.trans ⟨?_, ?_⟩
  · rintro ⟨value, expanded, rfl⟩
    obtain ⟨own, run, rfl⟩ := localPart.runs_expand.mp expanded
    obtain ⟨run, same⟩ := runs_local.mp run
    exact ⟨own, value, run, same, rfl, rfl⟩
  · rintro ⟨own, value, run, same, rfl, rfl⟩
    exact ⟨value, localPart.runs_expand.mpr ⟨own, runs_local.mpr ⟨run, same⟩, rfl⟩, rfl⟩

theorem ensures_ofLocal_onMachine {p : Attempt Local CloudError α}
    {post : Except CommandError α → Surroundings → Prop} :
    (ofLocal p).run.Ensures (onMachine machine) s post ↔ p.run.Ensures machine s.disk fun result after =>
      post (result.mapError .cloud) ⟨after, s.asked⟩ := by
  constructor
  · intro ensured events result after run
    exact ensured _ _ ⟨after, s.asked⟩ (runs_ofLocal.mpr ⟨events, some result, run, rfl, rfl, rfl⟩)
  · intro ensured events result after run
    obtain ⟨own, value, ran, same, _, ended⟩ := runs_ofLocal.mp run
    obtain ⟨value, rfl, rfl⟩ := Option.map_eq_some_iff.mp ended.symm
    have holds := ensured _ _ _ ran
    rwa [← same] at holds

theorem ensures_ofLocal {p : Attempt Local CloudError α}
    {post : Except CommandError α → Surroundings → Prop} :
    (ofLocal p).run.Ensures onDisk s post ↔ p.run.Ensures Local.onDisk s.disk fun result after =>
      post (result.mapError .cloud) ⟨after, s.asked⟩ := by
  rw [onDisk_eq]
  exact ensures_ofLocal_onMachine

/-- What the service does is a run of its own. -/
theorem runs_ofService {σ : Type} {env : Environment Session σ} {before after : σ} {p : Attempt Service CloudError α}
    {events : List Session.Event} {result : Option (Except CommandError α)} :
    (ofService p).run.Runs env before events result after ↔
      ∃ own value, p.run.Runs (servicePart.environment env) before own value after ∧
        events = own.map servicePart.event ∧ result = value.map (·.mapError .cloud) := by
  refine Program.runs_map.trans ⟨?_, ?_⟩
  · rintro ⟨value, expanded, rfl⟩
    obtain ⟨own, run, rfl⟩ := servicePart.runs_expand.mp expanded
    exact ⟨own, value, run, rfl, rfl⟩
  · rintro ⟨own, value, run, rfl, rfl⟩
    exact ⟨value, servicePart.runs_expand.mpr ⟨own, run, rfl⟩, rfl⟩

/-- On a machine it is noted as well. -/
theorem ensures_ofService {p : Attempt Service CloudError α}
    {post : Except CommandError α → Surroundings → Prop} :
    (ofService p).run.Ensures onDisk s post ↔ ∀ events result,
      p.run.Runs (servicePart.environment onDisk) s events (some result) ⟨s.disk, s.asked ++ events⟩ →
      post (result.mapError .cloud) ⟨s.disk, s.asked ++ events⟩ := by
  constructor
  · intro ensured events result run
    exact ensured _ _ _ (runs_ofService.mpr ⟨events, some result, run, rfl, rfl⟩)
  · intro each events result after run
    obtain ⟨own, value, ran, _, ended⟩ := runs_ofService.mp run
    obtain ⟨value, rfl, rfl⟩ := Option.map_eq_some_iff.mp ended.symm
    obtain rfl := runs_service (onDisk_eq ▸ ran)
    exact each _ _ ran

@[simp] theorem ensures_print {line : Terminal.Line} {post : Unit → Surroundings → Prop} :
    (print line).Ensures onDisk s post ↔ post () s := by
  rw [print, Program.ensures_perform]
  constructor
  · intro each
    exact each () s rfl
  · rintro here _ _ rfl
    exact here

@[simp] theorem ensures_printAll {lines : List Terminal.Line} {post : Unit → Surroundings → Prop} :
    (printAll lines).Ensures onDisk s post ↔ post () s := by
  induction lines with
  | nil => exact Program.ensures_done
  | cons line lines ih => rw [printAll, Program.ensures_bind, ensures_print, ih]

/-! ## Scopes of commands -/

/-- What is done on the local machine is in a scope where the machine may be asked everything. -/
theorem within_here {scope : Program.Scope Session} (asks : ∀ q, scope.asks (.here q)) (halts : scope.halts)
    (p : Attempt Local CloudError α) : (ofLocal p).run.Within scope :=
  Program.Within.map (p.run.within_any.expand (fun q _ => Program.within_perform.mpr (asks q)) fun _ => halts)

theorem within_line {scope : Program.Scope Session} (asks : ∀ line, scope.asks (.print line))
    (line : Terminal.Line) : (liftM (print line) : Act Unit).run.Within scope :=
  Attempt.within_lift (Program.within_perform.mpr (asks line))

/-! ## A command that runs -/

/-- A service that answers by what it was asked before. -/
def serve (service : (q : Service.Query) → List Service.Event → Service.Answer q) (q : Service.Query)
    (s : Surroundings) : Service.Answer q × Surroundings :=
  (service q s.asked, ⟨s.disk, s.asked ++ [⟨q, service q s.asked⟩]⟩)

/-- A machine with a disk and such a service. -/
def act (service : (q : Service.Query) → List Service.Event → Service.Answer q) :
    (q : Session.Query) → Surroundings → Session.Answer q × Surroundings
  | .here q, s => ((Local.act q s.disk).1, ⟨(Local.act q s.disk).2, s.asked⟩)
  | .service q, s => serve service q s
  | .authStatus _, s => (AuthStatus.failed "", s)
  | .print _, s => ((), s)

/-- Whether the disk does not refuse. -/
def works : Session.Query → Surroundings → Bool
  | .here q, s => Local.works q s.disk
  | _, _ => true

/-- What is left where a program ran on such a machine. -/
def ran (service : (q : Service.Query) → List Service.Event → Service.Answer q) (p : Act α)
    (s : Surroundings) : Surroundings :=
  (p.run.run (act service) s).2

/-- What a command does on such a machine, if the disk never refuses, is a run of it. -/
theorem runs_act (service : (q : Service.Query) → List Service.Event → Service.Answer q)
    (p : Act α) (s : Surroundings)
    (done : p.run.asksOnly works (act service) s = true) :
    p.run.Runs onDisk s (p.run.trace (act service) s) (p.run.run (act service) s).1 (ran service p s) := by
  refine Program.runs_asksOnly (fun q s possible => ?_) p.run s done
  cases q with
  | here q => exact ⟨Local.onDisk_act q s.disk possible, rfl⟩
  | service q => rfl
  | authStatus => rfl
  | print => rfl

theorem runs_serve {service : (q : Service.Query) → List Service.Event → Service.Answer q}
    {p : Program Service α} {a : α} (ended : (p.run (serve service) s).1 = some a) :
    p.Runs (servicePart.environment onDisk) s (p.trace (serve service) s) (some a)
      ⟨s.disk, s.asked ++ p.trace (serve service) s⟩ := by
  have answered : ∀ s q, servicePart.environment onDisk s q (serve service q s).1 (serve service q s).2 :=
    fun _ _ => rfl
  have run := Program.runs_run answered p s
  have noted := run
  rw [onDisk_eq] at noted
  rwa [ended, runs_service noted] at run

/-! ## The lock -/

/-- What is done under the lock once it is had. -/
def givingBack (store : Store) (work : Act α) : Act α := do
  let worked : Act α := do
    let result ← work
    ofLocal store.releaseLock
    return result
  match ← Attempt.outcome worked with
  | .ok result => return result
  | .error e =>
    ofLocal (ExceptT.lift store.dropLock)
    throw e

theorem withLock_eq (store : Store) (operation : String) (work : Act α) :
    withLock store operation work = ofLocal (store.acquireLock operation) >>= fun _ => givingBack store work :=
  rfl

/-- The lock is given back at the end of the work, or dropped after a failure. -/
theorem ensures_givingBack {store : Store} {work : Act α} {mid post : Except CommandError α → Surroundings → Prop}
    (works : work.run.Ensures (onMachine machine) s mid)
    (releases : ∀ value between, mid (.ok value) between →
      store.releaseLock.run.Ensures machine between.disk fun result last =>
        result = .ok () ∧ post (.ok value) ⟨last, between.asked⟩)
    (drops : ∀ e between, mid (.error e) between →
      store.dropLock.Ensures machine between.disk fun _ last => post (.error e) ⟨last, between.asked⟩) :
    (givingBack store work).run.Ensures (onMachine machine) s post := by
  rw [givingBack]
  simp only [Attempt.ensures_bind, Attempt.ensures_outcome]
  refine works.mono fun result between worked => ?_
  cases result with
  | ok value =>
    refine ensures_ofLocal_onMachine.mpr ((releases value between worked).mono ?_)
    rintro _ last ⟨rfl, done⟩
    exact Attempt.ensures_pure.mpr (Attempt.ensures_pure.mpr done)
  | error e =>
    dsimp only
    refine ensures_ofLocal_onMachine.mpr (Attempt.ensures_lift.mpr ((drops e between worked).mono ?_))
    intro _ last done
    exact Attempt.ensures_throw.mpr done

/-- Work under the lock: the lock is not to be had and nothing is asked of the service, or the work is
done. Nothing but the lock changes besides. -/
theorem ensures_withLock {store : Store} {operation : String} {work : Act α}
    {contents : String → Option Entry}
    (post : Except CommandError α → List Service.Event → (String → Option Entry) → Prop)
    (holds : store.Holds s.disk contents)
    (works : ∀ disk its, store.Holds disk its → Store.LockOnly contents its →
      work.run.Ensures onDisk ⟨disk, s.asked⟩ fun result after =>
        ∃ left, store.Holds after.disk left ∧ post result after.asked left) :
    (withLock store operation work).run.Ensures onDisk s fun result after =>
      ∃ left, store.Holds after.disk left ∧
        ((∃ e, result = .error (.cloud e)) ∧ contents "lock.json" ≠ none ∧ after.asked = s.asked ∧
          Store.LockOnly contents left ∨
        ∃ its, Store.LockOnly its left ∧ post result after.asked its) := by
  rw [withLock_eq, Attempt.ensures_bind]
  refine ensures_ofLocal.mpr ((Store.ensures_acquireLock holds operation).mono ?_)
  rintro locked disk ⟨free, its, holds, same⟩
  cases locked with
  | error e => exact ⟨its, holds, .inl ⟨⟨e, rfl⟩, fun unheld => (by cases free unheld), rfl, same⟩⟩
  | ok _ =>
    dsimp only [Except.mapError]
    rw [onDisk_eq] at works ⊢
    refine ensures_givingBack (works disk its holds same) ?_ ?_
    · rintro value between ⟨left, holds, done⟩
      refine (Store.ensures_releaseLock holds).mono ?_
      rintro _ released ⟨rfl, last, holds, same⟩
      exact ⟨rfl, last, holds, .inr ⟨left, same, done⟩⟩
    · rintro e between ⟨left, holds, done⟩
      refine (Store.ensures_dropLock holds).mono ?_
      rintro _ dropped ⟨last, holds, same⟩
      exact ⟨last, holds, .inr ⟨left, same, done⟩⟩

end CloudBalance.Session
